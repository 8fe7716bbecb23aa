import ModuleLocator.PosixPath
import ModuleLocator.OsError
import ModuleLocator.ModuleName
import ModuleLocator.Descriptor.Issue
import ModuleLocator.Yaml.Token
/-!
Why a module could not be located or loaded. Every such failure names the
module it was about, when one is known, and reads as one line of text.
Some wrap a cause: the file system error behind an unreadable descriptor,
the YAML text that did not load, or the issues of a descriptor whose
fields do not read.
-/

namespace ModuleLocator

/-- A failure while locating or loading a module. -/
inductive LoadError where
  | notFound (name descriptorName : String)
  | accessDenied (name : String) (path : PosixPath)
  | badName (text reason : String)
  | unreadable (name : String) (descriptor : PosixPath) (cause : OsError)
  | malformed (name : String) (descriptor : PosixPath) (cause : Yaml.Problem)
  | notMapping (name : String) (descriptor : PosixPath) (kind : String)
  | invalid (name : String) (descriptor : PosixPath) (issues : List Issue)
  | mismatch (name : String) (descriptor : PosixPath) (declared : String)
  | failedReading (name : String) (descriptor : PosixPath) (cause : OsError)
  | plain (message : String) (name : Option String)
  deriving Repr

namespace LoadError

/-- The failure of a module name that does not parse. -/
def ofNameFault (text : String) (f : NameFault) : LoadError := badName text f.reason

/-- The module a failure is about. -/
def moduleName : LoadError → Option String
  | notFound n _ | accessDenied n _ | unreadable n _ _ | malformed n _ _ | notMapping n _ _
  | invalid n _ _ | mismatch n _ _ | failedReading n _ _ => some n
  | badName t _ => some t
  | plain _ n => n

/-- The text of a failure. -/
def message : LoadError → String
  | notFound n d => n ++ ": File \"" ++ d ++ "\" does not exist in any roots"
  | accessDenied n p => n ++ ": Permission denied reading " ++ p.render
  | badName t r => NameFault.messageWith t r
  | unreadable n d e => n ++ ": Cannot read descriptor " ++ d.render ++ ": " ++ e.message
  | malformed n d p => n ++ ": Malformed descriptor " ++ d.render ++ ": " ++ p.text d.render
  | notMapping n d k => n ++ ": Descriptor " ++ d.render ++ " must be a mapping, got " ++ k
  | invalid n d is => n ++ ": Invalid descriptor " ++ d.render ++ ": " ++ Issue.report "ModuleDescriptor" is
  | mismatch n d m => n ++ ": Descriptor " ++ d.render ++ " declares module '" ++ m ++ "'"
  | failedReading n d e => n ++ ": Failed reading " ++ d.render ++ ": " ++ e.message
  | plain m _ => m

/-- The text of a failure up to the text of its cause, for the failures
whose causes are a YAML text that did not load or fields that do not read. -/
def headline : LoadError → String
  | invalid n d _ => n ++ ": Invalid descriptor " ++ d.render
  | malformed n d _ => n ++ ": Malformed descriptor " ++ d.render
  | e => e.message

/-- The kind of failure, by name. -/
def kind : LoadError → String
  | notFound .. => "ModuleNotFoundError"
  | accessDenied .. => "ModuleAccessDeniedError"
  | badName .. => "NameFormatError"
  | _ => "ModuleLoadError"

/-- The kind of the wrapped cause, when there is one. -/
def causeKind : LoadError → Option String
  | accessDenied .. => some "PermissionError"
  | unreadable _ _ e | failedReading _ _ e => some e.kind
  | malformed .. => some "YAMLError"
  | invalid .. => some "ValidationError"
  | _ => none

end LoadError

/-- A failure of loading a module, or another error that passes through:
a file system error, text that is not UTF-8, or an error of the named kind
raised while building a value. -/
inductive Failure where
  | load (e : LoadError)
  | os (e : OsError)
  | undecodable (e : Text.DecodeError)
  | raised (kind msg : String)
  deriving Repr

namespace Failure

/-- The kind of a failure, by name. -/
def kind : Failure → String
  | load e => e.kind
  | os e => e.kind
  | undecodable _ => "UnicodeDecodeError"
  | raised k _ => k

/-- The text of a failure. -/
def message : Failure → String
  | load e => e.message
  | os e => e.message
  | undecodable e => e.message
  | raised _ m => m

end Failure

end ModuleLocator
