import ModuleLocator.ModuleName
/-!
Directory layouts of a module name under a repository root. The current
layout turns the dots of the text into separators and keeps everything else;
the legacy layout takes the parsed name, turns its dots into separators and
adds the slot as a last directory. Descriptors are looked up in the legacy
layout only; the current layout takes part in path filtering.
-/

namespace ModuleLocator.ModuleName

/-- Dots become separators; the text is not parsed. -/
def currentPath (text : String) : String :=
  String.ofList (text.toList.map fun c => if c = '.' then '/' else c)

/-- The directory of a parsed name: name with dots as separators, then the slot. -/
def legacyDir (m : ModuleName) : String :=
  currentPath m.name ++ "/" ++ m.slot

/-- The legacy layout of a text, which must parse. -/
def legacyPath (text : String) : Except NameFault String :=
  legacyDir <$> parse text

/-- Both layouts of a text: current first, then legacy. -/
def layouts (text : String) : Except NameFault (String × String) :=
  (currentPath text, ·) <$> legacyPath text

end ModuleLocator.ModuleName
