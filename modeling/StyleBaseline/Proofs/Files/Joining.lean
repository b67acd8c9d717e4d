/-
**Paths inside paths.** A text is cut at its slashes into pieces. To join a path to another one is
to put its pieces behind those of the other, of which an empty one at the end is dropped; so a name
that is joined adds one component, whatever stands before it.

* `Path.pieces_join` — the pieces of a path inside another one.
* `Path.components_join_name` — what a name inside another path means.
* `Path.parts_descend`, `Path.components_descend` — the same for names one inside the other.
-/

import Mathlib.Data.List.Basic
import Mathlib.Data.List.Induction
import StyleBaseline.Files.Tree

namespace StyleBaseline

/-! ### Pieces -/

theorem slashPieces_ne_nil (cs : List Char) : slashPieces cs ≠ [] := by
  cases cs with
  | nil => exact List.cons_ne_nil _ _
  | cons c cs =>
      rw [slashPieces]
      split
      · exact List.cons_ne_nil _ _
      · split <;> exact List.cons_ne_nil _ _

@[simp]
theorem slashPieces_slash (cs : List Char) : slashPieces ('/' :: cs) = [] :: slashPieces cs := by
  rw [slashPieces, if_pos rfl]

/-- A character that is no slash stands at the front of the first piece. -/
theorem slashPieces_cons {c : Char} (plain : c ≠ '/') (cs : List Char) :
    slashPieces (c :: cs) = (c :: (slashPieces cs).headD []) :: (slashPieces cs).tail := by
  rw [slashPieces, if_neg plain]
  cases pieces : slashPieces cs with
  | nil => exact absurd pieces (slashPieces_ne_nil cs)
  | cons piece others => rfl

theorem notMem_of_mem_slashPieces {cs piece : List Char} (member : piece ∈ slashPieces cs) :
    '/' ∉ piece := by
  induction cs generalizing piece with
  | nil =>
      rw [List.mem_singleton.mp member]
      exact List.not_mem_nil
  | cons c cs ih =>
      by_cases slash : c = '/'
      · subst slash
        rw [slashPieces_slash] at member
        rcases List.mem_cons.mp member with rfl | later
        · exact List.not_mem_nil
        · exact ih later
      · rw [slashPieces_cons slash] at member
        obtain ⟨first, others, pieces⟩ := List.exists_cons_of_ne_nil (slashPieces_ne_nil cs)
        rw [pieces] at member
        rcases List.mem_cons.mp member with rfl | later
        · have noSlash : '/' ∉ first := ih (by rw [pieces]; exact List.mem_cons_self)
          exact List.not_mem_cons_of_ne_of_not_mem (Ne.symm slash) noSlash
        · exact ih (by rw [pieces]; exact List.mem_cons_of_mem _ later)

/-- **A text is cut at each slash.** -/
theorem slashPieces_append_slash (front behind : List Char) :
    slashPieces (front ++ '/' :: behind) = slashPieces front ++ slashPieces behind := by
  induction front with
  | nil => exact slashPieces_slash behind
  | cons c front ih =>
      rw [List.cons_append]
      by_cases slash : c = '/'
      · simp [slash, ih]
      · rw [slashPieces_cons slash, slashPieces_cons slash, ih]
        obtain ⟨first, others, pieces⟩ := List.exists_cons_of_ne_nil (slashPieces_ne_nil front)
        rw [pieces]
        rfl

theorem slashPieces_of_noSlash {cs : List Char} (plain : '/' ∉ cs) : slashPieces cs = [cs] := by
  induction cs with
  | nil => rfl
  | cons c cs ih =>
      rw [slashPieces_cons (Ne.symm (List.ne_of_not_mem_cons plain)),
        ih (List.not_mem_of_not_mem_cons plain)]
      rfl

/-- A character at the end that is no slash stands at the end of the last piece. -/
theorem slashPieces_concat {c : Char} (plain : c ≠ '/') (cs : List Char) :
    ∃ front piece, slashPieces (cs ++ [c]) = front ++ [piece ++ [c]] := by
  induction cs with
  | nil => exact ⟨[], [], slashPieces_of_noSlash (by simpa using Ne.symm plain)⟩
  | cons d cs ih =>
      obtain ⟨front, piece, pieces⟩ := ih
      by_cases slash : d = '/'
      · exact ⟨[] :: front, piece, by rw [slash, List.cons_append, slashPieces_slash, pieces]; rfl⟩
      · rw [List.cons_append, slashPieces_cons slash, pieces]
        cases front with
        | nil => exact ⟨[], d :: piece, rfl⟩
        | cons first others => exact ⟨(d :: first) :: others, piece, rfl⟩

/-- The pieces without an empty one at the end. -/
def dropEmptyEnd (pieces : List String) : List String :=
  if pieces.getLast? = some "" then pieces.dropLast else pieces

@[simp]
theorem dropEmptyEnd_concat_empty (pieces : List String) :
    dropEmptyEnd (pieces ++ [""]) = pieces := by
  rw [dropEmptyEnd, if_pos (by simp), List.dropLast_concat]

theorem dropEmptyEnd_concat {piece : String} (visible : piece ≠ "") (pieces : List String) :
    dropEmptyEnd (pieces ++ [piece]) = pieces ++ [piece] := by
  rw [dropEmptyEnd, if_neg (by simp [visible])]

theorem dropEmptyEnd_cons {piece : String} {pieces : List String}
    (more : piece ≠ "" ∨ pieces ≠ []) :
    dropEmptyEnd (piece :: pieces) = piece :: dropEmptyEnd pieces := by
  rcases List.eq_nil_or_concat' pieces with rfl | ⟨front, last, rfl⟩
  · have visible : piece ≠ "" := more.resolve_right (fun different => different rfl)
    exact dropEmptyEnd_concat visible []
  · by_cases empty : last = ""
    · rw [empty, ← List.cons_append, dropEmptyEnd_concat_empty, dropEmptyEnd_concat_empty]
    · rw [← List.cons_append, dropEmptyEnd_concat empty, dropEmptyEnd_concat empty]
      rfl

theorem pieceComponent?_of_isSilent {piece : String} (silent : isSilent piece = true) :
    pieceComponent? piece = none := by
  rw [pieceComponent?, if_pos silent]

/-- An empty piece at the end means nothing. -/
@[simp]
theorem filterMap_dropEmptyEnd (pieces : List String) :
    (dropEmptyEnd pieces).filterMap pieceComponent? = pieces.filterMap pieceComponent? := by
  rcases List.eq_nil_or_concat' pieces with rfl | ⟨front, last, rfl⟩
  · rfl
  · by_cases empty : last = ""
    · rw [empty, dropEmptyEnd_concat_empty, List.filterMap_append]
      exact (List.append_nil _).symm
    · rw [dropEmptyEnd_concat empty]

/-! ### Names -/

/-- What makes a text a name. -/
structure NameText (text : String) : Prop where
  visible : isSilent text = false
  notParent : text ≠ ".."
  noSlash : '/' ∉ text.toList
  noEnd : '\x00' ∉ text.toList
  short : byteLength text.toList ≤ longestName

theorem isName_iff {text : String} : isName text = true ↔ NameText text := by
  simp only [isName, Bool.and_eq_true, Bool.not_eq_true', bne_iff_ne, ne_eq,
    List.contains_eq_mem, decide_eq_false_iff_not, decide_eq_true_eq]
  constructor
  · rintro ⟨⟨⟨⟨visible, notParent⟩, noSlash⟩, noEnd⟩, short⟩
    exact ⟨visible, notParent, noSlash, noEnd, short⟩
  · rintro ⟨visible, notParent, noSlash, noEnd, short⟩
    exact ⟨⟨⟨⟨visible, notParent⟩, noSlash⟩, noEnd⟩, short⟩

namespace NameText

variable {name : String}

theorem ne_empty (isName : NameText name) : name ≠ "" := by
  rintro rfl
  exact absurd isName.visible (by decide)

theorem pieceComponent?_eq (isName : NameText name) : pieceComponent? name = some (.name name) := by
  rw [pieceComponent?, if_neg (by rw [isName.visible]; decide), if_neg isName.notParent]

end NameText

theorem filterMap_names {names : List String} (areNames : ∀ name ∈ names, NameText name) :
    names.filterMap pieceComponent? = names.map .name := by
  induction names with
  | nil => rfl
  | cons name names ih =>
      obtain ⟨isName, others⟩ := List.forall_mem_cons.mp areNames
      rw [List.filterMap_cons_some isName.pieceComponent?_eq, List.map_cons, ih others]

namespace Path

/-! ### Pieces of paths -/

/-- The pieces of a path. -/
def pieces (path : Path) : List String :=
  (slashPieces path.text.toList).map String.ofList

theorem pieces_ne_nil (path : Path) : path.pieces ≠ [] := by
  rw [pieces, Ne, List.map_eq_nil_iff]
  exact slashPieces_ne_nil _

/-- The beginning of a path and what is behind it, by its pieces. -/
def partsOfPieces : List String → Lead × List String
  | "" :: piece :: pieces => (.root, piece :: pieces)
  | "." :: pieces => (.current, pieces)
  | pieces => (.nothing, pieces)

theorem parts_eq (path : Path) : path.parts = partsOfPieces path.pieces := by
  rw [parts, pieces]
  rfl

theorem pieces_of_noSlash {text : String} (plain : '/' ∉ text.toList) :
    (Path.mk text).pieces = [text] := by
  rw [pieces, slashPieces_of_noSlash plain, List.map_singleton, String.ofList_toList]

theorem pieces_name {name : String} (isName : NameText name) : (Path.mk name).pieces = [name] :=
  pieces_of_noSlash isName.noSlash

@[simp]
theorem partsOfPieces_root {pieces : List String} (more : pieces ≠ []) :
    partsOfPieces ("" :: pieces) = (.root, pieces) := by
  obtain ⟨piece, others, rfl⟩ := List.exists_cons_of_ne_nil more
  rfl

theorem partsOfPieces_other {piece : String} (visible : isSilent piece = false)
    (pieces : List String) : partsOfPieces (piece :: pieces) = (.nothing, piece :: pieces) := by
  rw [partsOfPieces]
  · rintro other others same
    rw [(List.cons.inj same).1] at visible
    exact absurd visible (by decide)
  · rintro others same
    rw [(List.cons.inj same).1] at visible
    exact absurd visible (by decide)

theorem partsOfPieces_of_nothing {pieces : List String}
    (nothing : (partsOfPieces pieces).1 = .nothing) :
    partsOfPieces pieces = (.nothing, pieces) := by
  unfold partsOfPieces at *
  split at nothing <;> first | rfl | exact nomatch nothing

theorem parts_name {name : String} (isName : NameText name) :
    (Path.mk name).parts = (.nothing, [name]) := by
  rw [parts_eq, pieces_name isName, partsOfPieces_other isName.visible]

/-- Pieces that are put behind others do not change the beginning. -/
theorem partsOfPieces_append {front behind : List String} (anyFront : front ≠ [])
    (anyBehind : behind ≠ [])
    (determined : front ≠ [""] ∨ (partsOfPieces behind).1 = .nothing) :
    partsOfPieces (dropEmptyEnd front ++ behind) =
      ((partsOfPieces front).1, dropEmptyEnd (partsOfPieces front).2 ++ behind) := by
  obtain ⟨piece, pieces, rfl⟩ := List.exists_cons_of_ne_nil anyFront
  by_cases empty : piece = ""
  · subst empty
    by_cases alone : pieces = []
    · subst alone
      exact partsOfPieces_of_nothing (determined.resolve_left fun different => different rfl)
    · rw [dropEmptyEnd_cons (.inr alone), partsOfPieces_root alone, List.cons_append,
        partsOfPieces_root (by simp [anyBehind])]
  · rw [dropEmptyEnd_cons (.inl empty), List.cons_append]
    by_cases dot : piece = "."
    · rw [dot]
      rfl
    · have visible : isSilent piece = false := by simp [isSilent, empty, dot]
      rw [partsOfPieces_other visible, partsOfPieces_other visible,
        dropEmptyEnd_cons (.inl empty), List.cons_append]

@[simp]
theorem dropEmptyEnd_pieces {path : Path} (filled : path.text ≠ "")
    (unclosed : path.text.toList.getLast? ≠ some '/') : dropEmptyEnd path.pieces = path.pieces := by
  obtain ⟨front, last, text⟩ := (List.eq_nil_or_concat' path.text.toList).resolve_left
    (fun empty => filled (String.toList_eq_nil_iff.mp empty))
  have plain : last ≠ '/' := by
    rintro rfl
    exact unclosed (by rw [text, List.getLast?_concat])
  obtain ⟨others, piece, cut⟩ := slashPieces_concat plain front
  rw [pieces, text, cut, List.map_append, List.map_singleton, dropEmptyEnd_concat]
  exact fun empty => absurd (congrArg String.toList empty) (by simp)

/-- **The pieces of a path inside another one.** -/
theorem pieces_join {base path : Path} (relative : path.isAbsolute = false) :
    (base.join path).pieces = dropEmptyEnd base.pieces ++ path.pieces := by
  rw [join, if_neg (by rw [relative]; exact Bool.false_ne_true)]
  split
  next closed =>
    rcases closed with empty | slash
    · have none : base.pieces = [""] := by
        rw [pieces, empty]
        rfl
      rw [none, empty, String.empty_append]
      rfl
    · obtain ⟨front, text⟩ := List.getLast?_eq_some_iff.mp slash
      simp only [pieces, String.toList_append]
      rw [text, List.append_assoc, List.singleton_append, slashPieces_append_slash,
        slashPieces_append_slash, List.map_append, List.map_append]
      rw [show (slashPieces []).map String.ofList = [""] from rfl, dropEmptyEnd_concat_empty]
  next unclosed =>
    obtain ⟨filled, noSlash⟩ := not_or.mp unclosed
    rw [dropEmptyEnd_pieces filled noSlash]
    simp only [pieces, String.toList_append]
    rw [show "/".toList = ['/'] from rfl, List.append_assoc, List.singleton_append,
      slashPieces_append_slash, List.map_append]

theorem text_eq_empty_of_pieces {path : Path} (single : path.pieces = [""]) : path.text = "" := by
  refine String.toList_eq_nil_iff.mp ?_
  cases text : path.text.toList with
  | nil => rfl
  | cons c cs =>
      rw [pieces, text] at single
      by_cases slash : c = '/'
      · rw [slash, slashPieces_slash] at single
        have none : slashPieces cs = [] := List.map_eq_nil_iff.mp (List.cons.inj single).2
        exact absurd none (slashPieces_ne_nil cs)
      · rw [slashPieces_cons slash] at single
        have none := congrArg String.toList (List.cons.inj single).1
        exact absurd none (by simp)

/-- **The parts of a path inside another one**: the beginning is that of the other. -/
theorem parts_join {base path : Path} (relative : path.isAbsolute = false)
    (determined : base.text ≠ "" ∨ path.parts.1 = .nothing) :
    (base.join path).parts = (base.parts.1, dropEmptyEnd base.parts.2 ++ path.pieces) := by
  rw [parts_eq, pieces_join relative, parts_eq base]
  refine partsOfPieces_append base.pieces_ne_nil path.pieces_ne_nil (determined.imp ?_ ?_)
  · exact fun filled single => filled (text_eq_empty_of_pieces single)
  · exact fun nothing => by rwa [← parts_eq]

@[simp]
theorem isAbsolute_name {name : String} (isName : NameText name) :
    (Path.mk name).isAbsolute = false := by
  rw [isAbsolute, parts_name isName]
  rfl

theorem parts_join_name (base : Path) {name : String} (isName : NameText name) :
    (base.join ⟨name⟩).parts = (base.parts.1, dropEmptyEnd base.parts.2 ++ [name]) := by
  rw [parts_join (isAbsolute_name isName) (.inr (by rw [parts_name isName])), pieces_name isName]

@[simp]
theorem components_join_name (base : Path) {name : String} (isName : NameText name) :
    (base.join ⟨name⟩).components = base.components ++ [.name name] := by
  have last : [name].filterMap pieceComponent? = [.name name] :=
    filterMap_names (List.forall_mem_singleton.mpr isName)
  simp [components, parts_join_name base isName, last]

/-- A path inside another one has the bytes of both. -/
theorem le_byteLength_join (base path : Path) (relative : path.isAbsolute = false) :
    byteLength base.text.toList + byteLength path.text.toList ≤
      byteLength (base.join path).text.toList := by
  rw [join, if_neg (by rw [relative]; exact Bool.false_ne_true)]
  split <;> simp only [String.toList_append, byteLength_append] <;> omega

/-! ### Names one inside the other -/

section Descend

variable (path : Path) {names : List String}

@[simp]
theorem descend_concat (names : List String) (name : String) :
    path.descend (names ++ [name]) = (path.descend names).join ⟨name⟩ :=
  List.foldl_append

@[simp]
theorem descend_singleton (name : String) : path.descend [name] = path.join ⟨name⟩ :=
  rfl

/-- **The parts of a path along names.** -/
theorem parts_descend (areNames : ∀ name ∈ names, NameText name) (any : names ≠ []) :
    (path.descend names).parts = (path.parts.1, dropEmptyEnd path.parts.2 ++ names) := by
  induction names using List.reverseRecOn with
  | nil => exact absurd rfl any
  | append_singleton names name ih =>
      obtain ⟨areFront, isLast⟩ := List.forall_mem_append.mp areNames
      have isName : NameText name := isLast name (List.mem_singleton_self name)
      rw [descend_concat, parts_join_name _ isName]
      rcases List.eq_nil_or_concat' names with rfl | ⟨front, last, rfl⟩
      · rfl
      · have visible : last ≠ "" := (areFront last (by simp)).ne_empty
        rw [ih areFront (by simp), ← List.append_assoc, dropEmptyEnd_concat visible]
        simp only [List.append_assoc]

/-- **Each name adds one component.** -/
theorem components_descend (areNames : ∀ name ∈ names, NameText name) :
    (path.descend names).components = path.components ++ names.map .name := by
  induction names using List.reverseRecOn with
  | nil => exact (List.append_nil _).symm
  | append_singleton names name ih =>
      obtain ⟨areFront, isLast⟩ := List.forall_mem_append.mp areNames
      have isName : NameText name := isLast name (List.mem_singleton_self name)
      rw [descend_concat, components_join_name _ isName, ih areFront, List.map_append,
        List.append_assoc]
      rfl

/-- The extension is that of the last name. -/
theorem extension?_descend (areNames : ∀ name ∈ names, NameText name) (any : names ≠ []) :
    (path.descend names).extension? = names.getLast?.bind nameExtension? := by
  obtain ⟨front, last, rfl⟩ := (List.eq_nil_or_concat' names).resolve_left any
  rw [extension?, components_descend path areNames, List.map_append, List.map_singleton,
    ← List.append_assoc, List.getLast?_concat, List.getLast?_concat, Option.bind_some]

/-- Joining puts no other character than a slash between two paths. -/
theorem mem_text_join {base path : Path} {c : Char}
    (member : c ∈ (base.join path).text.toList) :
    c ∈ base.text.toList ∨ c = '/' ∨ c ∈ path.text.toList := by
  rw [join] at member
  split at member
  · exact .inr (.inr member)
  · split at member <;> simp only [String.toList_append, List.mem_append] at member
    · exact member.imp_right .inr
    · rcases member with (inBase | slash) | inPath
      · exact .inl inBase
      · exact .inr (.inl (by simpa using slash))
      · exact .inr (.inr inPath)

theorem noEnd_descend (noEnd : '\x00' ∉ path.text.toList)
    (areNames : ∀ name ∈ names, NameText name) : '\x00' ∉ (path.descend names).text.toList := by
  induction names using List.reverseRecOn with
  | nil => exact noEnd
  | append_singleton names name ih =>
      obtain ⟨areFront, isLast⟩ := List.forall_mem_append.mp areNames
      rw [descend_concat]
      intro member
      rcases mem_text_join member with inFront | slash | inName
      · exact ih areFront inFront
      · exact absurd slash (by decide)
      · exact (isLast name (List.mem_singleton_self name)).noEnd inName

theorem text_descend_ne_empty (filled : path.text ≠ "")
    (areNames : ∀ name ∈ names, NameText name) : (path.descend names).text ≠ "" := by
  intro empty
  rcases List.eq_nil_or_concat' names with rfl | ⟨front, last, rfl⟩
  · exact filled empty
  · have pieces := (path.descend (front ++ [last])).parts_eq
    have none : (path.descend (front ++ [last])).pieces = [""] := by
      rw [Path.pieces, empty]
      rfl
    rw [parts_descend path areNames (by simp), none] at pieces
    have same : last = "" := by
      have ends := congrArg (fun parts => parts.2.getLast?) pieces
      simpa [partsOfPieces] using ends
    exact (areNames last (by simp)).ne_empty same

end Descend

end Path

end StyleBaseline
