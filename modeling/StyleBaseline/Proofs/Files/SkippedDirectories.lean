/-
**Directories that are never checked.** The patterns that always hold are about bytes, a slash
included; what they come to is a condition on the pieces of a path: one of those before the last is
the name of such a directory. How the path is spelled besides does not matter.

* `ignores_default_iff` — which texts the patterns take.
* `ignores_default_congr` — paths with the same components are both ignored, or neither.
-/

import Mathlib.Data.List.Basic
import StyleBaseline.Proofs.Files.Shown
import StyleBaseline.Proofs.Text.Utf8

namespace StyleBaseline

/-! ### Bytes of ASCII characters -/

/-- **Bytes behind an ASCII character** are those of the characters behind it. -/
theorem bytesBehind?_ascii {c : Char} (ascii : c.toNat < 0x80) (d : Char) (ds : List Char) :
    bytesBehind? (encodeUtf8 [c]) (encodeUtf8 (d :: ds)) =
      if c = d then some (encodeUtf8 ds) else none := by
  have single : encodeUtf8 [c] = [UInt8.ofNat c.toNat] := by
    rw [encodeUtf8_cons, utf8EncodeChar_of_ascii ascii]
    rfl
  rw [single, encodeUtf8_cons]
  by_cases same : c = d
  · rw [if_pos same, ← same, utf8EncodeChar_of_ascii ascii, List.singleton_append, bytesBehind?,
      if_pos rfl, bytesBehind?]
  · rw [if_neg same]
    obtain ⟨b, bytes, encoded⟩ : ∃ b bytes, String.utf8EncodeChar d = b :: bytes :=
      List.exists_cons_of_ne_nil (List.ne_nil_of_length_pos (by
        rw [String.length_utf8EncodeChar]
        exact Char.utf8Size_pos d))
    have different : UInt8.ofNat c.toNat ≠ b := by
      intro equal
      by_cases otherAscii : d.toNat < 0x80
      · rw [utf8EncodeChar_of_ascii otherAscii] at encoded
        have codes := congrArg UInt8.toNat (equal.trans (List.cons.inj encoded).1.symm)
        rw [UInt8.toNat_ofNat', UInt8.toNat_ofNat'] at codes
        exact same (Char.toNat_inj.mp (by omega))
      · have high := le_of_mem_utf8EncodeChar (Nat.not_lt.mp otherAscii)
          (encoded ▸ List.mem_cons_self : b ∈ String.utf8EncodeChar d)
        rw [← equal, UInt8.toNat_ofNat'] at high
        omega
    rw [encoded, List.cons_append, bytesBehind?, if_neg different]

/-! ### Slashes -/

/-- What remains of characters behind each of the slashes. -/
def behindSlashes : List Char → List (List Char)
  | [] => []
  | c :: cs => if c = '/' then cs :: behindSlashes cs else behindSlashes cs

theorem suffixesBehindSlash_append {bytes : List UInt8} (noSlash : slashByte ∉ bytes)
    (rest : List UInt8) : suffixesBehindSlash (bytes ++ rest) = suffixesBehindSlash rest := by
  induction bytes with
  | nil => rfl
  | cons b bytes ih =>
      rw [List.cons_append, suffixesBehindSlash,
        if_neg (Ne.symm (List.ne_of_not_mem_cons noSlash)),
        ih (List.not_mem_of_not_mem_cons noSlash)]

@[simp]
theorem suffixesBehindSlash_encodeUtf8 (cs : List Char) :
    suffixesBehindSlash (encodeUtf8 cs) = (behindSlashes cs).map encodeUtf8 := by
  induction cs with
  | nil => rfl
  | cons c cs ih =>
      rw [encodeUtf8_cons, behindSlashes]
      by_cases slash : c = '/'
      · rw [if_pos slash, slash, List.map_cons, ← ih]
        rfl
      · rw [if_neg slash, suffixesBehindSlash_append _ _, ih]
        intro member
        by_cases ascii : c.toNat < 0x80
        · rw [utf8EncodeChar_of_ascii ascii, List.mem_singleton] at member
          have codes := congrArg UInt8.toNat member
          rw [UInt8.toNat_ofNat', show slashByte.toNat = '/'.toNat from rfl] at codes
          exact slash (Char.toNat_inj.mp (by omega))
        · exact absurd (le_of_mem_utf8EncodeChar (Nat.not_lt.mp ascii) member) (by decide)

/-! ### The patterns -/

theorem any_isEmpty_suffixes (bytes : List UInt8) :
    (suffixes bytes).any (fun rest => partsTake List.isEmpty rest []) = true := by
  induction bytes with
  | nil => rfl
  | cons b bytes ih => rw [suffixes, List.any_cons, ih, Bool.or_true]

/-- Characters and then a slash take what begins with them. -/
theorem partsTake_literals {name : List Char} (ascii : ∀ c ∈ name, c.toNat < 0x80)
    (cs : List Char) :
    partsTake List.isEmpty (encodeUtf8 cs) (name.map .literal ++ [.trailingComponents]) = true ↔
      name ++ ['/'] <+: cs := by
  induction name generalizing cs with
  | nil =>
      rw [List.map_nil, List.nil_append, partsTake, GlobPart.takes,
        show [slashByte] = encodeUtf8 ['/'] from rfl]
      cases cs with
      | nil => exact ⟨nofun, fun begins => nomatch List.prefix_nil.mp begins⟩
      | cons d ds =>
          rw [bytesBehind?_ascii (by decide), List.nil_append, List.cons_prefix_cons]
          by_cases slash : '/' = d
          · simp only [if_pos slash, any_isEmpty_suffixes, true_iff]
            exact ⟨slash, List.nil_prefix⟩
          · simp only [if_neg slash]
            exact ⟨nofun, fun begins => absurd begins.1 slash⟩
  | cons c name ih =>
      obtain ⟨isAscii, others⟩ := List.forall_mem_cons.mp ascii
      rw [List.map_cons, List.cons_append, partsTake, GlobPart.takes, List.cons_append]
      cases cs with
      | nil =>
          rw [encodeUtf8_cons, utf8EncodeChar_of_ascii isAscii]
          exact ⟨nofun, fun begins => nomatch List.prefix_nil.mp begins⟩
      | cons d ds =>
          rw [bytesBehind?_ascii isAscii, List.cons_prefix_cons]
          by_cases same : c = d
          · simp only [if_pos same, ih others]
            exact ⟨fun begins => ⟨same, begins⟩, fun begins => begins.2⟩
          · simp only [if_neg same]
            exact ⟨nofun, fun begins => absurd begins.1 same⟩

/-- A text is taken apart at its first slash. -/
theorem slash_induction {motive : List Char → Prop}
    (plain : ∀ cs, '/' ∉ cs → motive cs)
    (cut : ∀ piece rest, '/' ∉ piece → motive rest → motive (piece ++ '/' :: rest))
    (cs : List Char) : motive cs := by
  induction length : cs.length using Nat.strongRecOn generalizing cs with
  | _ n ih =>
    by_cases slash : '/' ∈ cs
    · obtain ⟨piece, rest, rfl, noSlash⟩ := List.eq_append_cons_of_mem slash
      refine cut piece rest noSlash (ih rest.length ?_ rest rfl)
      rw [← length, List.length_append, List.length_cons]
      omega
    · exact plain cs slash

theorem behindSlashes_of_noSlash {cs : List Char} (noSlash : '/' ∉ cs) : behindSlashes cs = [] := by
  induction cs with
  | nil => rfl
  | cons c cs ih =>
      rw [behindSlashes, if_neg (Ne.symm (List.ne_of_not_mem_cons noSlash)),
        ih (List.not_mem_of_not_mem_cons noSlash)]

theorem behindSlashes_append {piece : List Char} (noSlash : '/' ∉ piece) (rest : List Char) :
    behindSlashes (piece ++ '/' :: rest) = rest :: behindSlashes rest := by
  induction piece with
  | nil => exact if_pos rfl
  | cons c piece ih =>
      rw [List.cons_append, behindSlashes, if_neg (Ne.symm (List.ne_of_not_mem_cons noSlash)),
        ih (List.not_mem_of_not_mem_cons noSlash)]

/-- What begins with a piece and a slash has it for its first piece. -/
theorem prefix_slash_iff {name piece : List Char} (noSlash : '/' ∉ name)
    (pieceNoSlash : '/' ∉ piece) (rest : List Char) :
    name ++ ['/'] <+: piece ++ '/' :: rest ↔ name = piece := by
  induction name generalizing piece with
  | nil =>
      cases piece with
      | nil => exact ⟨fun _ => rfl, fun _ => List.cons_prefix_cons.mpr ⟨rfl, List.nil_prefix⟩⟩
      | cons d piece =>
          refine ⟨fun begins => ?_, nofun⟩
          exact absurd (List.cons_prefix_cons.mp begins).1 (List.ne_of_not_mem_cons pieceNoSlash)
  | cons c name ih =>
      cases piece with
      | nil =>
          refine ⟨fun begins => ?_, nofun⟩
          exact absurd (List.cons_prefix_cons.mp begins).1.symm (List.ne_of_not_mem_cons noSlash)
      | cons d piece =>
          rw [List.cons_append, List.cons_append, List.cons_prefix_cons, List.cons.injEq,
            ih (List.not_mem_of_not_mem_cons noSlash) (List.not_mem_of_not_mem_cons pieceNoSlash)]

theorem mem_dropLast_slashPieces_iff {name : List Char} (noSlash : '/' ∉ name) (cs : List Char) :
    name ∈ (slashPieces cs).dropLast ↔
      (name ++ ['/'] <+: cs ∨ ∃ rest ∈ behindSlashes cs, name ++ ['/'] <+: rest) := by
  induction cs using slash_induction with
  | plain cs plain =>
      have none : ¬name ++ ['/'] <+: cs := fun begins => plain (begins.subset (by simp))
      simp [slashPieces_of_noSlash plain, behindSlashes_of_noSlash plain, none]
  | cut piece rest pieceNoSlash ih =>
      rw [slashPieces_append_slash, slashPieces_of_noSlash pieceNoSlash, List.singleton_append,
        List.dropLast_cons_of_ne_nil (slashPieces_ne_nil rest), List.mem_cons, ih,
        prefix_slash_iff noSlash pieceNoSlash, behindSlashes_append pieceNoSlash,
        List.exists_mem_cons_iff]

/-- The pattern for a directory takes the paths with its name before the last piece. -/
theorem matchesPath_insideDirectories {name : String} (ascii : ∀ c ∈ name.toList, c.toNat < 0x80)
    (noSlash : '/' ∉ name.toList) (path : Path) :
    (insideDirectories name).matchesPath path = true ↔ name ∈ path.pieces.dropLast := by
  have taken : (insideDirectories name).matchesPath path = true ↔
      name.toList ∈ (slashPieces path.text.toList).dropLast := by
    have unfolded : (insideDirectories name).matchesPath path =
        partsTake List.isEmpty (encodeUtf8 path.text.toList)
          (.leadingComponents :: (name.toList.map .literal ++ [.trailingComponents])) := by
      simp only [Glob.matchesPath, insideDirectories]
      cases name.toList <;> rfl
    rw [mem_dropLast_slashPieces_iff noSlash, unfolded, partsTake, GlobPart.takes,
      suffixesBehindSlash_encodeUtf8, Bool.or_eq_true, List.any_map, List.any_eq_true]
    simp only [Function.comp_apply, partsTake_literals ascii]
  rw [taken, Path.pieces, ← List.map_dropLast, List.mem_map]
  constructor
  · exact fun member => ⟨name.toList, member, String.ofList_toList⟩
  · rintro ⟨piece, member, rfl⟩
    rwa [String.toList_ofList]

/-- **What the patterns that always hold ignore**: paths with the name of a directory that is never
checked before their last piece. -/
theorem ignores_default_iff (path : Path) :
    IgnoreSet.default.ignores path = true ↔
      ∃ name ∈ skippedDirectories, name ∈ path.pieces.dropLast := by
  have plain : ∀ name ∈ skippedDirectories,
      name.toList.all (·.toNat < 0x80) = true ∧ '/' ∉ name.toList := by decide
  rw [IgnoreSet.ignores, IgnoreSet.default, List.any_map, List.any_eq_true]
  refine exists_congr fun name => and_congr_right fun member => ?_
  obtain ⟨ascii, noSlash⟩ := plain name member
  exact matchesPath_insideDirectories (by simpa using ascii) noSlash path

/-! ### Spelling -/

/-- Whether a path in the workspace is ignored, by what it means as it is shown. -/
theorem ignores_default_shownPath_iff (workspace : Path) {path : Path} (ends : path.EndsInName) :
    IgnoreSet.default.ignores (shownPath workspace path) = true ↔
      ∃ name ∈ skippedDirectories,
        .name name ∈ (shownPath workspace path).steps.dropLast := by
  have areNames : ∀ name ∈ skippedDirectories, NameText name := fun name member =>
    isName_iff.mp ((by decide : ∀ name ∈ skippedDirectories, isName name) name member)
  rw [ignores_default_iff]
  refine exists_congr fun name => and_congr_right fun member => ?_
  rcases endsInName_shownPath workspace ends with shownEnds | empty
  · exact mem_dropLast_pieces_iff shownEnds (areNames name member)
  · rw [empty]
    exact ⟨nofun, nofun⟩

/-- **How a path is spelled does not matter** to the patterns that always hold. -/
theorem ignores_default_congr (workspace : Path) {path other : Path} (ends : path.EndsInName)
    (otherEnds : other.EndsInName) (same : path.components = other.components) :
    IgnoreSet.default.ignores (shownPath workspace path) =
      IgnoreSet.default.ignores (shownPath workspace other) := by
  rw [Bool.eq_iff_iff, ignores_default_shownPath_iff workspace ends,
    ignores_default_shownPath_iff workspace otherEnds, steps_shownPath_congr same]

end StyleBaseline
