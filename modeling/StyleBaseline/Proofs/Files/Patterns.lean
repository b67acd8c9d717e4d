/-
**Patterns that are given and patterns that always hold.** Patterns are read one by one, and then an
engine makes one set of them or refuses to. What the set ignores is what each of the patterns ignores
alone, in whatever order they stand. Those that always hold are written like the others; of them it
can be said without patterns what they ignore.

* `Glob.ofText_insideDirectories` — how the pattern for the directories of a name is written.
* `readGlobs_eq_ok_iff` — patterns are read one by one.
* `IgnoreSet.Builds`, `IgnoreSet.IsRefused` — what an engine can say of patterns.
* `builds_iff_nesting` — the engine with the usual limit looks at each pattern by itself.
* `isRefused_nestedText` — groups inside one another, a pattern that it refuses.
* `ignores_ofTexts` — what is ignored when patterns are given.
-/

import StyleBaseline.Proofs.Files.SkippedDirectories

namespace StyleBaseline

/-! ### Texts without marks -/

/-- A character that stands for itself in a pattern. -/
def isPlain (c : Char) : Bool :=
  !(['?', '*', '[', '\x7b', '\x7d', ',', '\\'].contains c)

namespace GlobDraft

@[simp]
theorem push_nil (draft : GlobDraft) : draft.push [] = draft := by
  rw [push, List.append_nil]

@[simp]
theorem push_push (draft : GlobDraft) (parts more : List GlobPart) :
    (draft.push parts).push more = draft.push (parts ++ more) := by
  simp only [push, List.append_assoc]

theorem take_plain (draft : GlobDraft) (previous : Option Char) {c : Char} (plain : isPlain c)
    (behind : List Char) : draft.take previous c behind = .ok (draft.push [.literal c], 0) := by
  simp only [isPlain, List.contains_eq_mem, List.mem_cons, List.not_mem_nil, or_false,
    Bool.not_eq_true', decide_eq_false_iff_not, not_or] at plain
  obtain ⟨noQuestion, noStar, noBracket, noOpening, noClosing, noComma, noEscape⟩ := plain
  unfold take
  split
  · exact absurd rfl noQuestion
  · exact absurd rfl noStar
  · exact absurd rfl noBracket
  · exact absurd rfl noOpening
  · exact absurd rfl noClosing
  · exact absurd rfl noComma
  · exact absurd rfl noEscape
  · rfl

/-- **Characters that stand for themselves** are read one after another. -/
theorem takeAll_plain (draft : GlobDraft) (previous : Option Char) {name : List Char}
    (plain : ∀ c ∈ name, isPlain c) (cs : List Char) :
    draft.takeAll 0 previous (name ++ cs) =
      (draft.push (name.map .literal)).takeAll 0 (name.getLast?.or previous) cs := by
  induction name generalizing draft previous with
  | nil => rw [List.map_nil, push_nil]; rfl
  | cons c name ih =>
      obtain ⟨isPlain, others⟩ := List.forall_mem_cons.mp plain
      rw [List.cons_append, takeAll, take_plain draft previous isPlain]
      show (draft.push [.literal c]).takeAll 0 (some c) (name ++ cs) = _
      rw [ih _ _ others, push_push, List.map_cons, List.singleton_append, List.getLast?_cons]
      cases name.getLast? <;> rfl

end GlobDraft

/-- **How the pattern is written** that takes all that lies in directories of a name. -/
theorem Glob.ofText_insideDirectories {name : String} (plain : ∀ c ∈ name.toList, isPlain c) :
    Glob.ofText ("**/" ++ name ++ "/**") = .ok (insideDirectories name) := by
  have text : ("**/" ++ name ++ "/**").toList =
      '*' :: '*' :: '/' :: (name.toList ++ ['/', '*', '*']) := by
    rw [String.toList_append, String.toList_append]
    rfl
  -- the two stars at the front take the slash behind them along
  have front (cs : List Char) : GlobDraft.empty.takeAll 0 none ('*' :: '*' :: '/' :: cs) =
      (GlobDraft.empty.push [.leadingComponents]).takeAll 0 (some '/') cs := rfl
  -- those at the end take the place of the slash before them
  have ending (parts : List GlobPart) (previous : Option Char) :
      (GlobDraft.mk (.leadingComponents :: parts) []).takeAll 0 previous ['/', '*', '*'] =
        .ok ⟨.leadingComponents :: parts ++ [.trailingComponents], []⟩ := by
    have slash : (GlobDraft.mk (.leadingComponents :: parts) []).takeAll 0 previous
        ['/', '*', '*'] =
        .ok ((GlobDraft.mk (.leadingComponents :: parts ++ [.literal '/']) []).pushComponents
          .trailingComponents) := rfl
    rw [slash, GlobDraft.pushComponents, List.getLast?_concat]
    simp only [List.dropLast_concat]
  rw [Glob.ofText, text, front, GlobDraft.takeAll_plain _ _ plain]
  show ((GlobDraft.mk (.leadingComponents :: name.toList.map .literal) []).takeAll 0 _ _).bind _ = _
  rw [ending]
  rfl

/-! ### Patterns one by one -/

section Reading

variable {texts : List String} {globs : List Glob}

/-- **Patterns are read one by one.** -/
theorem readGlobs_eq_ok_iff :
    IgnoreSet.readGlobs texts = .ok globs ↔ texts.map Glob.ofText = globs.map .ok := by
  induction texts generalizing globs with
  | nil => simp [IgnoreSet.readGlobs, eq_comm]
  | cons text texts ih =>
      rw [IgnoreSet.readGlobs, List.map_cons]
      cases reads : Glob.ofText text with
      | error fault => cases globs <;> simp [Except.mapError, bind, Except.bind]
      | ok glob =>
          have goesOn : (Except.mapError (GlobFault.malformed text) (.ok glob) >>= fun first =>
              IgnoreSet.readGlobs texts >>= fun rest => .ok (first :: rest)) = .ok globs ↔
              ∃ rest, IgnoreSet.readGlobs texts = .ok rest ∧ glob :: rest = globs := by
            cases IgnoreSet.readGlobs texts <;> simp [Except.mapError, bind, Except.bind]
          rw [goesOn]
          simp only [ih]
          cases globs with
          | nil => simp
          | cons first globs =>
              simp only [List.cons.injEq, List.map_cons, Except.ok.injEq]
              constructor
              · rintro ⟨rest, sameRest, rfl, rfl⟩
                exact ⟨rfl, sameRest⟩
              · rintro ⟨rfl, sameRest⟩
                exact ⟨globs, sameRest, rfl, rfl⟩

/-- A pattern is read if one of the texts writes it. -/
theorem mem_iff_of_readGlobs (reads : IgnoreSet.readGlobs texts = .ok globs) {glob : Glob} :
    glob ∈ globs ↔ ∃ text ∈ texts, Glob.ofText text = .ok glob := by
  have isRead : glob ∈ globs ↔ (.ok glob : Except PatternFault Glob) ∈ globs.map .ok := by simp
  rw [isRead, ← readGlobs_eq_ok_iff.mp reads, List.mem_map]

theorem exists_readGlobs (valid : ∀ text ∈ texts, ∃ glob, Glob.ofText text = .ok glob) :
    ∃ globs, IgnoreSet.readGlobs texts = .ok globs := by
  induction texts with
  | nil => exact ⟨[], rfl⟩
  | cons text texts ih =>
      obtain ⟨⟨glob, reads⟩, others⟩ := List.forall_mem_cons.mp valid
      obtain ⟨globs, readsRest⟩ := ih others
      refine ⟨glob :: globs, readGlobs_eq_ok_iff.mpr ?_⟩
      rw [List.map_cons, List.map_cons, reads, readGlobs_eq_ok_iff.mp readsRest]

/-- The texts of the patterns that always hold. -/
def defaultPatterns : List String :=
  ["**/node_modules/**", "**/dist/**", "**/target/**"]

theorem readGlobs_defaultPatterns :
    IgnoreSet.readGlobs defaultPatterns = .ok IgnoreSet.default.globs := by
  have written : defaultPatterns = skippedDirectories.map fun name => "**/" ++ name ++ "/**" := by
    decide
  have plain : ∀ name ∈ skippedDirectories, name.toList.all isPlain = true := by decide
  rw [readGlobs_eq_ok_iff, written, IgnoreSet.default, List.map_map, List.map_map]
  exact List.map_congr_left fun name member =>
    Glob.ofText_insideDirectories (List.all_eq_true.mp (plain name member))

end Reading

/-! ### The set of them -/

namespace IgnoreSet

/-- **Texts that become a set**: each of them is a pattern, and the engine does not refuse them
together with the patterns that always hold. -/
def Builds [GlobEngine] (texts : List String) : Prop :=
  ∃ globs : List Glob, texts.map Glob.ofText = globs.map .ok ∧
    GlobEngine.refusal? (globs ++ default.globs) = none

/-- **Texts that are refused as a set**, for a reason, although each of them is a pattern. -/
def IsRefused [GlobEngine] (texts : List String) (reason : String) : Prop :=
  ∃ globs : List Glob, texts.map Glob.ofText = globs.map .ok ∧
    GlobEngine.refusal? (globs ++ default.globs) = some reason

end IgnoreSet

section Sets

variable [GlobEngine] {texts : List String} {globs : List Glob} {ignored : IgnoreSet}

theorem ofGlobs_eq_ok_iff : IgnoreSet.ofGlobs globs = .ok ignored ↔
    GlobEngine.refusal? globs = none ∧ ignored = ⟨globs⟩ := by
  rw [IgnoreSet.ofGlobs]
  cases GlobEngine.refusal? globs <;> simp [eq_comm]

theorem ofTexts_eq_ok_iff : IgnoreSet.ofTexts texts = .ok ignored ↔
    ∃ globs, IgnoreSet.readGlobs texts = .ok globs ∧
      GlobEngine.refusal? (globs ++ IgnoreSet.default.globs) = none ∧
      ignored = ⟨globs ++ IgnoreSet.default.globs⟩ := by
  rw [IgnoreSet.ofTexts]
  cases IgnoreSet.readGlobs texts with
  | error fault => simp [bind, Except.bind]
  | ok globs => simp [bind, Except.bind, ofGlobs_eq_ok_iff]

/-- **When a set is made.** -/
theorem exists_ofTexts_iff :
    (∃ ignored, IgnoreSet.ofTexts texts = .ok ignored) ↔ IgnoreSet.Builds texts := by
  simp only [ofTexts_eq_ok_iff, IgnoreSet.Builds, readGlobs_eq_ok_iff]
  constructor
  · rintro ⟨_, globs, reads, taken, _⟩
    exact ⟨globs, reads, taken⟩
  · rintro ⟨globs, reads, taken⟩
    exact ⟨_, globs, reads, taken, rfl⟩

/-- Without patterns there is always a set. -/
theorem builds_nil : IgnoreSet.Builds [] :=
  ⟨[], rfl, GlobEngine.takesSkipped⟩

/-- What is ignored is ignored by one of the given patterns, or by those that always hold. -/
theorem ignores_iff_of_ofTexts (reads : IgnoreSet.ofTexts texts = .ok ignored) (path : Path) :
    ignored.ignores path = true ↔
      (∃ text ∈ texts, ∃ glob, Glob.ofText text = .ok glob ∧ glob.matchesPath path = true) ∨
        IgnoreSet.default.ignores path = true := by
  obtain ⟨globs, readsGlobs, _, rfl⟩ := ofTexts_eq_ok_iff.mp reads
  rw [IgnoreSet.ignores, List.any_append, Bool.or_eq_true, List.any_eq_true]
  refine or_congr_left ?_
  simp only [mem_iff_of_readGlobs readsGlobs]
  constructor
  · rintro ⟨glob, ⟨text, member, readsText⟩, takes⟩
    exact ⟨text, member, glob, readsText, takes⟩
  · rintro ⟨text, member, glob, readsText, takes⟩
    exact ⟨glob, ⟨text, member, readsText⟩, takes⟩

end Sets

/-! ### The usual limit -/

/-- **The engine with the usual limit** refuses a set if it holds a pattern that is too deep. -/
theorem nestingRefusal?_eq_none_iff {globs : List Glob} :
    nestingRefusal? globs = none ↔
      ∀ glob ∈ globs, glob.isCompiled = true → glob.nesting ≤ nestingLimit := by
  -- one by one or together, each pattern that is compiled is looked at
  have looked : nestingRefusal? globs = none ↔
      (∀ glob ∈ (globs.filter (·.isCompiled)).filter (·.endsInExtension),
          glob.nesting ≤ nestingLimit) ∧
        ∀ glob ∈ (globs.filter (·.isCompiled)).filter (!·.endsInExtension),
          glob.nesting ≤ nestingLimit := by
    rw [nestingRefusal?]
    split
    next glob found =>
      have deep : nestingLimit < glob.nesting := by simpa using List.find?_some found
      exact iff_of_false nofun fun ⟨each, _⟩ =>
        absurd deep (Nat.not_lt.mpr (each glob (List.mem_of_find?_eq_some found)))
    next notFound =>
      rw [Option.map_eq_none_iff, List.findIdx?_eq_none_iff]
      simp only [List.find?_eq_none, decide_eq_true_eq, Nat.not_lt] at notFound
      simp only [decide_eq_false_iff_not, Nat.not_lt]
      exact (and_iff_right notFound).symm
  rw [looked]
  simp only [List.mem_filter, Bool.not_eq_true']
  constructor
  · rintro ⟨alone, together⟩ glob member compiled
    cases extension : glob.endsInExtension with
    | true => exact alone glob ⟨⟨member, compiled⟩, extension⟩
    | false => exact together glob ⟨⟨member, compiled⟩, extension⟩
  · intro each
    exact ⟨fun glob found => each glob found.1.1 found.1.2,
      fun glob found => each glob found.1.1 found.1.2⟩

theorem partsNesting_literals (cs : List Char) (parts : List GlobPart) :
    partsNesting (cs.map .literal ++ parts) = partsNesting parts := by
  induction cs with
  | nil => rfl
  | cons c cs ih => simp [partsNesting, GlobPart.nesting, ih]

/-- The patterns that always hold are not deep, whatever the names of the directories are. -/
theorem nesting_insideDirectories (name : String) : (insideDirectories name).nesting = 5 := by
  simp [Glob.nesting, insideDirectories, partsNesting, GlobPart.nesting, partsNesting_literals]

/-- **Each pattern by itself** becomes part of a set or not, if only nesting is limited: what else is
given, and in which order, makes no difference. -/
theorem builds_iff_nesting {texts : List String} :
    IgnoreSet.Builds texts ↔ ∀ text ∈ texts, ∃ glob, Glob.ofText text = .ok glob ∧
      (glob.isCompiled = true → glob.nesting ≤ nestingLimit) := by
  constructor
  · rintro ⟨globs, reads, taken⟩ text member
    obtain ⟨glob, inGlobs, readsText⟩ := List.mem_map.mp (reads ▸ List.mem_map_of_mem member)
    exact ⟨glob, readsText.symm,
      nestingRefusal?_eq_none_iff.mp taken glob (List.mem_append_left _ inGlobs)⟩
  · intro each
    obtain ⟨globs, readsGlobs⟩ := exists_readGlobs fun text member =>
      (each text member).imp fun _ both => both.1
    refine ⟨globs, readGlobs_eq_ok_iff.mp readsGlobs, nestingRefusal?_eq_none_iff.mpr ?_⟩
    intro glob member
    rcases List.mem_append.mp member with given | always
    · obtain ⟨text, isText, readsText⟩ := (mem_iff_of_readGlobs readsGlobs).mp given
      obtain ⟨again, readsAgain, fits⟩ := each text isText
      obtain rfl := Except.ok.inj (readsText.symm.trans readsAgain)
      exact fits
    · obtain ⟨name, _, rfl⟩ := List.mem_map.mp always
      rw [nesting_insideDirectories]
      exact fun _ => by decide

/-! ### Groups inside one another -/

/-- A letter in groups that lie inside one another. -/
def nestedGroups : Nat → List GlobPart
  | 0 => [.literal 'a']
  | depth + 1 => [.alternatives [nestedGroups depth]]

/-- How they are written. -/
def nestedText (depth : Nat) : String :=
  String.ofList (List.replicate depth '\x7b' ++ 'a' :: List.replicate depth '\x7d')

/-- What is opened is closed again, one group after another. -/
theorem takeAll_nested (depth : Nat) (draft : GlobDraft) (previous : Option Char)
    (behind : List Char) :
    ∃ last, draft.takeAll 0 previous
        (List.replicate depth '\x7b' ++ 'a' :: (List.replicate depth '\x7d' ++ behind)) =
      (draft.push (nestedGroups depth)).takeAll 0 last behind := by
  induction depth generalizing draft previous behind with
  | zero => exact ⟨some 'a', rfl⟩
  | succ depth ih =>
      obtain ⟨last, inside⟩ := ih draft.openGroup (some '\x7b') ('\x7d' :: behind)
      have closing : List.replicate (depth + 1) '\x7d' ++ behind =
          List.replicate depth '\x7d' ++ '\x7d' :: behind := by
        rw [List.replicate_succ', List.append_assoc, List.singleton_append]
      refine ⟨some '\x7d', ?_⟩
      rw [closing]
      exact inside

@[simp]
theorem ofText_nestedText (depth : Nat) :
    Glob.ofText (nestedText depth) = .ok ⟨nestedGroups depth⟩ := by
  obtain ⟨last, reads⟩ := takeAll_nested depth .empty none []
  rw [List.append_nil] at reads
  rw [Glob.ofText, nestedText, String.toList_ofList, reads]
  rfl

@[simp]
theorem allPartsVoid_nestedGroups (depth : Nat) : allPartsVoid (nestedGroups depth) = false := by
  induction depth with
  | zero => rfl
  | succ depth ih => simp [nestedGroups, allPartsVoid, GlobPart.isVoid, allBranchesVoid, ih]

@[simp]
theorem partsWidth_nestedGroups (depth : Nat) : partsWidth (nestedGroups depth) = 1 := by
  cases depth with
  | zero => rfl
  | succ depth =>
      simp [nestedGroups, partsWidth, GlobPart.width, allBranchesVoid, allPartsVoid_nestedGroups]

/-- **Each group is one more.** -/
@[simp]
theorem nesting_nestedGroups (depth : Nat) : (Glob.mk (nestedGroups depth)).nesting = depth + 1 := by
  have parts : partsNesting (nestedGroups depth) = depth := by
    induction depth with
    | zero => rfl
    | succ depth ih =>
        simp [nestedGroups, partsNesting, GlobPart.nesting, branchesNesting, allBranchesVoid,
          allPartsVoid_nestedGroups, partsWidth_nestedGroups, ih]
  rw [Glob.nesting, parts]

/-- **Deep groups are refused**, although they are a pattern. -/
theorem isRefused_nestedText {depth : Nat} (deep : nestingLimit ≤ depth) :
    IgnoreSet.IsRefused [nestedText depth] "error parsing pattern 0" := by
  refine ⟨[⟨nestedGroups depth⟩], by rw [List.map_singleton, ofText_nestedText]; rfl, ?_⟩
  cases depth with
  | zero => exact absurd deep (by decide)
  | succ depth =>
      have compiled : (Glob.mk (nestedGroups (depth + 1))).isCompiled = true := rfl
      have noExtension : (Glob.mk (nestedGroups (depth + 1))).endsInExtension = false := rfl
      have tooDeep : nestingLimit < (Glob.mk (nestedGroups (depth + 1))).nesting := by
        rw [nesting_nestedGroups]
        exact Nat.lt_succ_of_le deep
      have noOther : (IgnoreSet.default.globs.filter (·.isCompiled)).filter
          (·.endsInExtension) = [] := by decide
      show nestingRefusal? _ = _
      rw [nestingRefusal?]
      simp only [List.singleton_append, List.filter_cons, compiled, noExtension, noOther, tooDeep,
        Bool.false_eq_true, Bool.not_false, if_true, if_false, List.find?_nil, List.findIdx?_cons,
        decide_true, Option.map_some]
      rfl

/-! ### What is ignored -/

/-- **What is ignored** when patterns are given. Without any there is always a set, and one is made of
them just if each text is a pattern and the engine does not refuse them together with those that
always hold. Such a set ignores what each of the patterns ignores alone, and what those ignore that
always hold, which is all that has the name of a directory that is never checked before the last of
its pieces. The order of the patterns, and whether one is given twice, makes no difference to what is
ignored. -/
theorem ignores_ofTexts [GlobEngine] (texts : List String) :
    IgnoreSet.Builds [] ∧
    ((∃ ignored, IgnoreSet.ofTexts texts = .ok ignored) ↔ IgnoreSet.Builds texts) ∧
    ∀ ignored, IgnoreSet.ofTexts texts = .ok ignored →
      IgnoreSet.readGlobs (texts ++ defaultPatterns) = .ok ignored.globs ∧
      (∀ path : Path, ignored.ignores path = true ↔
        (∃ text ∈ texts, ∃ glob, Glob.ofText text = .ok glob ∧ glob.matchesPath path = true) ∨
          ∃ name ∈ ["node_modules", "dist", "target"], name ∈ path.pieces.dropLast) ∧
      ∀ (others : List String) (again : IgnoreSet), (∀ text, text ∈ others ↔ text ∈ texts) →
        IgnoreSet.ofTexts others = .ok again →
          ∀ path, again.ignores path = ignored.ignores path := by
  refine ⟨builds_nil, exists_ofTexts_iff, fun ignored reads => ⟨?_, fun path => ?_, ?_⟩⟩
  · obtain ⟨globs, readsGlobs, _, rfl⟩ := ofTexts_eq_ok_iff.mp reads
    rw [readGlobs_eq_ok_iff, List.map_append, List.map_append, readGlobs_eq_ok_iff.mp readsGlobs,
      readGlobs_eq_ok_iff.mp readGlobs_defaultPatterns]
  · rw [ignores_iff_of_ofTexts reads, ignores_default_iff]
    rfl
  · intro others again same readsAgain path
    rw [Bool.eq_iff_iff, ignores_iff_of_ofTexts readsAgain, ignores_iff_of_ofTexts reads]
    simp only [same]

/-- A pattern that is given beside those that always hold. -/
theorem ignores_ofTexts_minified :
    ∃ ignored, IgnoreSet.ofTexts ["*.min.css"] = .ok ignored ∧
      ignored.ignores ⟨"a/b.min.css"⟩ = true ∧ ignored.ignores ⟨"a/dist/c.css"⟩ = true ∧
      ignored.ignores ⟨"my-dist/Dist/target"⟩ = false := by
  have reads : Glob.ofText "*.min.css" = .ok ⟨.anyBytes :: ".min.css".toList.map .literal⟩ := rfl
  have builds : IgnoreSet.Builds ["*.min.css"] := builds_iff_nesting.mpr
    (List.forall_mem_singleton.mpr ⟨_, reads, by decide⟩)
  obtain ⟨_, whenBuilt, ignores⟩ := ignores_ofTexts ["*.min.css"]
  obtain ⟨ignored, readsAll⟩ := whenBuilt.mpr builds
  obtain ⟨_, union, _⟩ := ignores ignored readsAll
  refine ⟨ignored, readsAll, (union _).mpr (.inl ?_), (union _).mpr (.inr ?_), ?_⟩
  · exact ⟨_, List.mem_singleton_self _, _, reads, by decide +kernel⟩
  · exact ⟨"dist", by decide, by decide⟩
  · rw [← Bool.not_eq_true, union]
    rintro (⟨text, member, glob, readsText, takes⟩ | ⟨name, member, isPiece⟩)
    · obtain rfl := List.mem_singleton.mp member
      obtain rfl := Except.ok.inj (reads.symm.trans readsText)
      exact absurd takes (by decide +kernel)
    · revert name
      decide

end StyleBaseline
