import ModuleLocator.Text.RangeTable
/-!
Terminal cell widths of characters and of texts, as Unicode 16 gives them.
-/

namespace ModuleLocator

namespace Text

/-- The characters whose width is not one: first and last code point in
hexadecimal, then the width. -/
def cellWidthRows : List String := [
  "0 1F 0;7F 9F 0;300 36F 0;483 489 0;591 5BD 0;5BF 5BF 0;5C1 5C2 0;5C4 5C5 0",
  "5C7 5C7 0;610 61A 0;61C 61C 0;64B 65F 0;670 670 0;6D6 6DC 0;6DF 6E4 0;6E7 6E8 0",
  "6EA 6ED 0;711 711 0;730 74A 0;7A6 7B0 0;7EB 7F3 0;7FD 7FD 0;816 819 0;81B 823 0",
  "825 827 0;829 82D 0;859 85B 0;897 89F 0;8CA 8E1 0;8E3 903 0;93A 93C 0;93E 94F 0",
  "951 957 0;962 963 0;981 983 0;9BC 9BC 0;9BE 9C4 0;9C7 9C8 0;9CB 9CD 0;9D7 9D7 0",
  "9E2 9E3 0;9FE 9FE 0;A01 A03 0;A3C A3C 0;A3E A42 0;A47 A48 0;A4B A4D 0;A51 A51 0",
  "A70 A71 0;A75 A75 0;A81 A83 0;ABC ABC 0;ABE AC5 0;AC7 AC9 0;ACB ACD 0;AE2 AE3 0",
  "AFA AFF 0;B01 B03 0;B3C B3C 0;B3E B44 0;B47 B48 0;B4B B4D 0;B55 B57 0;B62 B63 0",
  "B82 B82 0;BBE BC2 0;BC6 BC8 0;BCA BCD 0;BD7 BD7 0;C00 C04 0;C3C C3C 0;C3E C44 0",
  "C46 C48 0;C4A C4D 0;C55 C56 0;C62 C63 0;C81 C83 0;CBC CBC 0;CBE CC4 0;CC6 CC8 0",
  "CCA CCD 0;CD5 CD6 0;CE2 CE3 0;CF3 CF3 0;D00 D03 0;D3B D3C 0;D3E D44 0;D46 D48 0",
  "D4A D4D 0;D57 D57 0;D62 D63 0;D81 D83 0;DCA DCA 0;DCF DD4 0;DD6 DD6 0;DD8 DDF 0",
  "DF2 DF3 0;E31 E31 0;E34 E3A 0;E47 E4E 0;EB1 EB1 0;EB4 EBC 0;EC8 ECE 0;F18 F19 0",
  "F35 F35 0;F37 F37 0;F39 F39 0;F3E F3F 0;F71 F84 0;F86 F87 0;F8D F97 0;F99 FBC 0",
  "FC6 FC6 0;102B 103E 0;1056 1059 0;105E 1060 0;1062 1064 0;1067 106D 0;1071 1074 0;1082 108D 0",
  "108F 108F 0;109A 109D 0;1100 115F 2;1160 11FF 0;135D 135F 0;1712 1715 0;1732 1734 0;1752 1753 0",
  "1772 1773 0;17B4 17D3 0;17DD 17DD 0;180B 180F 0;1885 1886 0;18A9 18A9 0;1920 192B 0;1930 193B 0",
  "1A17 1A1B 0;1A55 1A5E 0;1A60 1A7C 0;1A7F 1A7F 0;1AB0 1ADD 0;1AE0 1AEB 0;1B00 1B04 0;1B34 1B44 0",
  "1B6B 1B73 0;1B80 1B82 0;1BA1 1BAD 0;1BE6 1BF3 0;1C24 1C37 0;1CD0 1CD2 0;1CD4 1CE8 0;1CED 1CED 0",
  "1CF4 1CF4 0;1CF7 1CF9 0;1DC0 1DFF 0;200B 200F 0;2028 202E 0;2060 206F 0;20D0 20F0 0;231A 231B 2",
  "2329 232A 2;23E9 23EC 2;23F0 23F0 2;23F3 23F3 2;25FD 25FE 2;2614 2615 2;2630 2637 2;2648 2653 2",
  "267F 267F 2;268A 268F 2;2693 2693 2;26A1 26A1 2;26AA 26AB 2;26BD 26BE 2;26C4 26C5 2;26CE 26CE 2",
  "26D4 26D4 2;26EA 26EA 2;26F2 26F3 2;26F5 26F5 2;26FA 26FA 2;26FD 26FD 2;2705 2705 2;270A 270B 2",
  "2728 2728 2;274C 274C 2;274E 274E 2;2753 2755 2;2757 2757 2;2795 2797 2;27B0 27B0 2;27BF 27BF 2",
  "2B1B 2B1C 2;2B50 2B50 2;2B55 2B55 2;2CEF 2CF1 0;2D7F 2D7F 0;2DE0 2DFF 0;2E80 2E99 2;2E9B 2EF3 2",
  "2F00 2FD5 2;2FF0 3029 2;302A 302F 0;3030 303E 2;3041 3096 2;3099 309A 0;309B 30FF 2;3105 312F 2",
  "3131 3163 2;3164 3164 0;3165 318E 2;3190 31E5 2;31EF 321E 2;3220 3247 2;3250 A48C 2;A490 A4C6 2",
  "A66F A672 0;A674 A67D 0;A69E A69F 0;A6F0 A6F1 0;A802 A802 0;A806 A806 0;A80B A80B 0;A823 A827 0",
  "A82C A82C 0;A880 A881 0;A8B4 A8C5 0;A8E0 A8F1 0;A8FF A8FF 0;A926 A92D 0;A947 A953 0;A960 A97C 2",
  "A980 A983 0;A9B3 A9C0 0;A9E5 A9E5 0;AA29 AA36 0;AA43 AA43 0;AA4C AA4D 0;AA7B AA7D 0;AAB0 AAB0 0",
  "AAB2 AAB4 0;AAB7 AAB8 0;AABE AABF 0;AAC1 AAC1 0;AAEB AAEF 0;AAF5 AAF6 0;ABE3 ABEA 0;ABEC ABED 0",
  "AC00 D7A3 2;D7B0 D7FF 0;F900 FAFF 2;FB1E FB1E 0;FE00 FE0F 0;FE10 FE19 2;FE20 FE2F 0;FE30 FE52 2",
  "FE54 FE66 2;FE68 FE6B 2;FEFF FEFF 0;FF01 FF60 2;FFA0 FFA0 0;FFE0 FFE6 2;FFF0 FFFB 0;101FD 101FD 0",
  "102E0 102E0 0;10376 1037A 0;10A01 10A03 0;10A05 10A06 0;10A0C 10A0F 0;10A38 10A3A 0;10A3F 10A3F 0;10AE5 10AE6 0",
  "10D24 10D27 0;10D69 10D6D 0;10EAB 10EAC 0;10EFA 10EFF 0;10F46 10F50 0;10F82 10F85 0;11000 11002 0;11038 11046 0",
  "11070 11070 0;11073 11074 0;1107F 11082 0;110B0 110BA 0;110C2 110C2 0;11100 11102 0;11127 11134 0;11145 11146 0",
  "11173 11173 0;11180 11182 0;111B3 111C0 0;111C9 111CC 0;111CE 111CF 0;1122C 11237 0;1123E 1123E 0;11241 11241 0",
  "112DF 112EA 0;11300 11303 0;1133B 1133C 0;1133E 11344 0;11347 11348 0;1134B 1134D 0;11357 11357 0;11362 11363 0",
  "11366 1136C 0;11370 11374 0;113B8 113C0 0;113C2 113C2 0;113C5 113C5 0;113C7 113CA 0;113CC 113D0 0;113D2 113D2 0",
  "113E1 113E2 0;11435 11446 0;1145E 1145E 0;114B0 114C3 0;115AF 115B5 0;115B8 115C0 0;115DC 115DD 0;11630 11640 0",
  "116AB 116B7 0;1171D 1172B 0;1182C 1183A 0;11930 11935 0;11937 11938 0;1193B 1193E 0;11940 11940 0;11942 11943 0",
  "119D1 119D7 0;119DA 119E0 0;119E4 119E4 0;11A01 11A0A 0;11A33 11A39 0;11A3B 11A3E 0;11A47 11A47 0;11A51 11A5B 0",
  "11A8A 11A99 0;11B60 11B67 0;11C2F 11C36 0;11C38 11C3F 0;11C92 11CA7 0;11CA9 11CB6 0;11D31 11D36 0;11D3A 11D3A 0",
  "11D3C 11D3D 0;11D3F 11D45 0;11D47 11D47 0;11D8A 11D8E 0;11D90 11D91 0;11D93 11D97 0;11EF3 11EF6 0;11F00 11F01 0",
  "11F03 11F03 0;11F34 11F3A 0;11F3E 11F42 0;11F5A 11F5A 0;13430 13440 0;13447 13455 0;1611E 1612F 0;16AF0 16AF4 0",
  "16B30 16B36 0;16F4F 16F4F 0;16F51 16F87 0;16F8F 16F92 0;16FE0 16FE3 2;16FE4 16FE4 0;16FF0 16FF1 0;16FF2 16FF6 2",
  "17000 18CD5 2;18CFF 18D1E 2;18D80 18DF2 2;1AFF0 1AFF3 2;1AFF5 1AFFB 2;1AFFD 1AFFE 2;1B000 1B122 2;1B132 1B132 2",
  "1B150 1B152 2;1B155 1B155 2;1B164 1B167 2;1B170 1B2FB 2;1BC9D 1BC9E 0;1BCA0 1BCA3 0;1CF00 1CF2D 0;1CF30 1CF46 0",
  "1D165 1D169 0;1D16D 1D182 0;1D185 1D18B 0;1D1AA 1D1AD 0;1D242 1D244 0;1D300 1D356 2;1D360 1D376 2;1DA00 1DA36 0",
  "1DA3B 1DA6C 0;1DA75 1DA75 0;1DA84 1DA84 0;1DA9B 1DA9F 0;1DAA1 1DAAF 0;1E000 1E006 0;1E008 1E018 0;1E01B 1E021 0",
  "1E023 1E024 0;1E026 1E02A 0;1E08F 1E08F 0;1E130 1E136 0;1E2AE 1E2AE 0;1E2EC 1E2EF 0;1E4EC 1E4EF 0;1E5EE 1E5EF 0",
  "1E6E3 1E6E3 0;1E6E6 1E6E6 0;1E6EE 1E6EF 0;1E6F5 1E6F5 0;1E8D0 1E8D6 0;1E944 1E94A 0;1F004 1F004 2;1F0CF 1F0CF 2",
  "1F18E 1F18E 2;1F191 1F19A 2;1F200 1F202 2;1F210 1F23B 2;1F240 1F248 2;1F250 1F251 2;1F260 1F265 2;1F300 1F320 2",
  "1F32D 1F335 2;1F337 1F37C 2;1F37E 1F393 2;1F3A0 1F3CA 2;1F3CF 1F3D3 2;1F3E0 1F3F0 2;1F3F4 1F3F4 2;1F3F8 1F3FA 2;1F3FB 1F3FF 0;1F400 1F43E 2",
  "1F440 1F440 2;1F442 1F4FC 2;1F4FF 1F53D 2;1F54B 1F54E 2;1F550 1F567 2;1F57A 1F57A 2;1F595 1F596 2;1F5A4 1F5A4 2",
  "1F5FB 1F64F 2;1F680 1F6C5 2;1F6CC 1F6CC 2;1F6D0 1F6D2 2;1F6D5 1F6D8 2;1F6DC 1F6DF 2;1F6EB 1F6EC 2;1F6F4 1F6FC 2",
  "1F7E0 1F7EB 2;1F7F0 1F7F0 2;1F90C 1F93A 2;1F93C 1F945 2;1F947 1F9FF 2;1FA70 1FA7C 2;1FA80 1FA8A 2;1FA8E 1FAC6 2",
  "1FAC8 1FAC8 2;1FACD 1FADC 2;1FADF 1FAEA 2;1FAEF 1FAF8 2;20000 2FFFD 2;30000 3FFFD 2;E0000 E0FFF 0"
]

/-- Characters that variation selector 16 widens to two cells. -/
def emojiWideRows : List String := [
  "23 23;2A 2A;30 39;A9 A9;AE AE;203C 203C;2049 2049;2122 2122",
  "2139 2139;2194 2199;21A9 21AA;2328 2328;23CF 23CF;23ED 23EF;23F1 23F2;23F8 23FA",
  "24C2 24C2;25AA 25AB;25B6 25B6;25C0 25C0;25FB 25FC;2600 2604;260E 260E;2611 2611",
  "2618 2618;261D 261D;2620 2620;2622 2623;2626 2626;262A 262A;262E 262F;2638 263A",
  "2640 2640;2642 2642;265F 2660;2663 2663;2665 2666;2668 2668;267B 267B;267E 267E",
  "2692 2692;2694 2697;2699 2699;269B 269C;26A0 26A0;26A7 26A7;26B0 26B1;26C8 26C8",
  "26CF 26CF;26D1 26D1;26D3 26D3;26E9 26E9;26F0 26F1;26F4 26F4;26F7 26F9;2702 2702",
  "2708 2709;270C 270D;270F 270F;2712 2712;2714 2714;2716 2716;271D 271D;2721 2721",
  "2733 2734;2744 2744;2747 2747;2763 2764;27A1 27A1;2934 2935;2B05 2B07;1F170 1F171",
  "1F17E 1F17F;1F321 1F321;1F324 1F32C;1F336 1F336;1F37D 1F37D;1F396 1F397;1F399 1F39B;1F39E 1F39F",
  "1F3CB 1F3CE;1F3D4 1F3DF;1F3F3 1F3F3;1F3F5 1F3F5;1F3F7 1F3F7;1F43F 1F43F;1F441 1F441;1F4FD 1F4FD",
  "1F549 1F54A;1F56F 1F570;1F573 1F579;1F587 1F587;1F58A 1F58D;1F590 1F590;1F5A5 1F5A5;1F5A8 1F5A8",
  "1F5B1 1F5B2;1F5BC 1F5BC;1F5C2 1F5C4;1F5D1 1F5D3;1F5DC 1F5DE;1F5E1 1F5E1;1F5E3 1F5E3;1F5E8 1F5E8",
  "1F5EF 1F5EF;1F5F3 1F5F3;1F5FA 1F5FA;1F6CB 1F6CB;1F6CD 1F6CF;1F6E0 1F6E5;1F6E9 1F6E9;1F6F0 1F6F0",
  "1F6F3 1F6F3"
]

/-- The widths that are not one. -/
def cellWidthTable : RangeTable Nat :=
  .ofRows (fun | [w] => some w.toNat! | _ => none) cellWidthRows

/-- The characters that variation selector 16 widens. -/
def emojiWide : RangeTable Unit := .ofRows (fun _ => some ()) emojiWideRows

/-- The cells a character takes on its own. -/
def cellWidth (c : Char) : Nat :=
  let n := c.toNat
  if 32 ≤ n && n < 0x7F then 1 else
  match cellWidthTable.find? n with
  | some (_, w) => w
  | none => 1

/-- The cells that characters take after `total` cells, when `last` is the
character measured last that variation selector 16 may still widen. -/
def measureFrom (total : Nat) (last : Option Char) : List Char → Nat
  | [] => total
  | '\u200D' :: rest =>
    match rest with
    | _ :: more => measureFrom total last more
    | [] => total
  | '\uFE0F' :: rest =>
    match last with
    | some b => measureFrom (total + if emojiWide.contains b.toNat then 1 else 0) none rest
    | none => measureFrom total none rest
  | c :: rest =>
    let w := cellWidth c
    if w = 0 then measureFrom total last rest else measureFrom (total + w) (some c) rest

/-- The cells characters take. -/
def cellsOf (cs : List Char) : Nat := measureFrom 0 none cs

/-- The cells a text takes. -/
def cellsOfText (s : String) : Nat := cellsOf s.toList

/-- The graphemes of characters after those found so far, kept in reverse
in `acc`, each with the cells it takes: a character that takes cells
starts a grapheme, and one that takes none joins the grapheme before it;
a zero width joiner joins the character after it too, and variation
selector 16 widens the grapheme as in measuring. A joiner or selector
that comes first stands alone, and the character after it is measured. -/
def graphemesFrom (acc : List (List Char × Nat)) (last : Option Char) : List Char → List (List Char × Nat)
  | [] => acc.reverse
  | c :: rest =>
    match acc with
    | [] =>
      let w := cellWidth c
      if c = '\u200D' || c = '\uFE0F' || w = 0 then graphemesFrom [([c], 0)] last rest
      else graphemesFrom [([c], w)] (some c) rest
    | (g, w) :: done =>
      if c = '\u200D' then
        match rest with
        | d :: more => graphemesFrom ((g ++ [c, d], w) :: done) last more
        | [] => graphemesFrom ((g ++ [c], w) :: done) last []
      else if c = '\uFE0F' then
        match last with
        | some b =>
          if emojiWide.contains b.toNat then graphemesFrom ((g ++ [c], w + 1) :: done) none rest
          else graphemesFrom ((g ++ [c], w) :: done) last rest
        | none => graphemesFrom ((g ++ [c], w) :: done) none rest
      else
        let cw := cellWidth c
        if cw = 0 then graphemesFrom ((g ++ [c], w) :: done) last rest
        else graphemesFrom (([c], cw) :: (g, w) :: done) (some c) rest

/-- The graphemes of characters, each with the cells it takes. -/
def graphemes (cs : List Char) : List (List Char × Nat) := graphemesFrom [] none cs

theorem measureFrom_of_plain (total : Nat) (last : Option Char) (cs : List Char)
    (hj : '\u200D' ∉ cs) (hv : '\uFE0F' ∉ cs) :
    measureFrom total last cs = total + (cs.map cellWidth).foldr (· + ·) 0 := by
  induction cs generalizing total last with
  | nil => simp [measureFrom]
  | cons c rest ih =>
    have hcj : c ≠ '\u200D' := fun e => hj (e ▸ List.mem_cons_self ..)
    have hcv : c ≠ '\uFE0F' := fun e => hv (e ▸ List.mem_cons_self ..)
    have hrj : '\u200D' ∉ rest := fun m => hj (List.mem_cons_of_mem _ m)
    have hrv : '\uFE0F' ∉ rest := fun m => hv (List.mem_cons_of_mem _ m)
    have step : measureFrom total last (c :: rest) =
        if cellWidth c = 0 then measureFrom total last rest
        else measureFrom (total + cellWidth c) (some c) rest := by
      rw [measureFrom.eq_def]
      split <;> simp_all
    rw [step]
    split
    · rw [ih total last hrj hrv]
      simp_all
    · rw [ih _ _ hrj hrv]
      simp only [List.map_cons, List.foldr_cons]
      omega

theorem cellsOf_of_plain (cs : List Char) (hj : '\u200D' ∉ cs) (hv : '\uFE0F' ∉ cs) :
    cellsOf cs = (cs.map cellWidth).foldr (· + ·) 0 := by
  unfold cellsOf
  rw [measureFrom_of_plain 0 none cs hj hv, Nat.zero_add]

end Text

end ModuleLocator
