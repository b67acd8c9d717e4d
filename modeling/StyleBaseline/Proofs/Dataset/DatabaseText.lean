/-
**Texts that hold a database.** The top of the text is an object with one member of the right name,
the value of which is an object again. Whatever else stands at the top is passed over. The features
are read as values before any of them is looked at, so that one value that cannot be read is the end
of all of them; once they are read, each feature is taken by itself.

* `HoldsFeatures` — the well-formed texts of databases.
* `readDatabaseMember_gives` — the step: one member at the top.
* `foundBehindAll?_eq_some_iff` — the run over all members.
* `Database.find?_ofMembers` — each feature by itself.
* `Database.ofText_isOk_iff` — which texts are read, and what becomes of each feature.
-/

import StyleBaseline.Dataset.Database
import StyleBaseline.Proofs.Catalog
import StyleBaseline.Proofs.Json.Skimming

namespace StyleBaseline

open Json

/-- The levels of nesting that a feature may have. -/
def featureLevels : Nat :=
  levelLimit - 2

/-- The members of an object, as they are written. -/
abbrev WrittenMembers := List (Padded StringForm × Padded Phrase)

/-- Whether a member is the one that holds the features. -/
def namesFeatures (member : Padded StringForm × Padded Phrase) : Bool :=
  member.1.word.value? = some featuresMember

/-- **The text of a database**: an object of which exactly one member has the name that the features
go by, and the value of that is an object. -/
structure HoldsFeatures (text : String) (members features : WrittenMembers) : Prop where
  writes : ∃ inside, Writes text (.object inside members)
  single : ∃ name before inside after,
    members.filter namesFeatures = [(name, ⟨before, .object inside features, after⟩)]

/-! ### One member at the top -/

theorem refuseType_stops {α : Type} (here : Cursor) (expected : Expected) :
    ∃ stop, (here.refuseType expected : Except Stop α) = .error stop := by
  unfold Cursor.refuseType
  split
  · exact ⟨_, rfl⟩
  · exact ⟨_, rfl⟩
  · cases here.readScalar with
    | error stop => exact ⟨stop, rfl⟩
    | ok read =>
        obtain ⟨value, behind⟩ := read
        cases value <;> exact ⟨_, rfl⟩

theorem stopInObject_stops {α : Type} (cursor : Cursor) (cause : Cause) :
    ∃ stop, (cursor.stopInObject cause : Except Stop α) = .error stop := by
  rw [Cursor.stopInObject]
  split <;> exact ⟨_, rfl⟩

/-- Only an object begins with a brace. -/
theorem text_append_ne_brace {phrase : Phrase}
    (notObject : ¬∃ inside members, phrase = .object inside members) (rest cs : List Char) :
    phrase.text ++ rest ≠ '\x7b' :: cs := by
  obtain ⟨c, others, split, _, _, _, opens⟩ := phrase.text_eq_cons
  rw [split, List.cons_append]
  intro same
  obtain ⟨rfl, _⟩ := List.cons.inj same
  cases phrase with
  | object inside members => exact notObject ⟨inside, members, rfl⟩
  | array inside items => exact absurd (List.cons.inj split).1 (by decide)
  | _ => exact (opens rfl).2 rfl

/-- The values of a map of features; nothing else has any. -/
def featureValues? : Phrase → Option (Catalog Value)
  | .object _ features => (Phrase.memberValues? features featureLevels).map Catalog.ofList
  | _ => none

/-- What has been found when a member is read: the features, which may not come twice. -/
def foundBehind? (found : Option (Catalog Value)) (name : String) (phrase : Phrase) :
    Option (Option (Catalog Value)) :=
  if name = featuresMember then
    if found.isSome then none else (featureValues? phrase).map some
  else some found

section Members

variable {rounds : Nat} {rest : List Char}

theorem readFeatures_gives (blank : Blank) (phrase : Phrase)
    (short : (phrase.text ++ rest).length < rounds) (offset : Nat) :
    Gives rest rounds (readFeatures ⟨blank.chars ++ (phrase.text ++ rest), offset, rounds⟩)
      (featureValues? phrase) := by
  have skipped := Cursor.skipPadding_blank blank (phrase.visible rest) offset rounds
  rw [readFeatures]
  by_cases isObject : ∃ inside features, phrase = .object inside features
  · obtain ⟨inside, features, rfl⟩ := isObject
    rw [Phrase.object_text_append] at short skipped ⊢
    rw [List.length_cons, List.length_append] at short
    rw [featureValues?, Phrase.memberValues?_eq_mapM]
    simp only [skipped]
    exact Cursor.readMap_gives Catalog.insert Catalog.empty (·.value? featureLevels) inside
      (fun feature (_ : feature ∈ features) rest offset boundary short =>
        Cursor.readValue_gives featureLevels feature.2.word feature.2.before boundary short offset)
      rest (by omega) _
  · have noValues : featureValues? phrase = none := by
      unfold featureValues?
      split
      · exact absurd ⟨_, _, rfl⟩ isObject
      · rfl
    obtain ⟨stop, stopped⟩ := @refuseType_stops (Catalog Value × Cursor)
      ⟨phrase.text ++ rest, offset + byteLength blank.chars, rounds⟩ .map
    simp only [skipped]
    split
    · rename_i here
      exact absurd here (text_append_ne_brace isObject rest _)
    · rw [stopped, noValues]
      exact .failure stop

/-- **The step.** One member at the top. -/
theorem readDatabaseMember_gives (found : Option (Catalog Value)) (name : String)
    (after before : Blank) (phrase : Phrase) (boundary : Boundary rest)
    (short : (phrase.text ++ rest).length < rounds) (offset : Nat) :
    Gives rest rounds
      (readDatabaseMember found name
        ⟨after.chars ++ ':' :: (before.chars ++ (phrase.text ++ rest)), offset, rounds⟩)
      (foundBehind? found name phrase) := by
  unfold readDatabaseMember foundBehind?
  by_cases isFeatures : name = featuresMember
  · rw [if_pos isFeatures, if_pos isFeatures]
    cases found with
    | some features =>
        obtain ⟨stop, stopped⟩ := stopInObject_stops
          (⟨after.chars ++ ':' :: (before.chars ++ (phrase.text ++ rest)), offset, rounds⟩ : Cursor)
          (.repeatedMember featuresMember)
        show Gives rest rounds (Cursor.stopInObject _ _) none
        rw [stopped]
        exact .failure stop
    | none =>
        exact (Cursor.readColon_passes after _ offset).bind fun further =>
          (readFeatures_gives before phrase short further).map fun _ _ => rfl
  · rw [if_neg isFeatures, if_neg isFeatures]
    have passed (offset : Nat) := Cursor.skimValue_passes phrase before boundary short offset
    exact (Cursor.readColon_passes after _ offset).bind fun further =>
      (passed further).bind fun _ => .value _ _

/-- What has been found behind all members. -/
def foundBehindAll? (found : Option (Catalog Value)) (members : WrittenMembers) :
    Option (Option (Catalog Value)) :=
  members.foldlM (fun found member =>
    member.1.word.value?.bind fun name => foundBehind? found name member.2.word) found

theorem readDatabase_gives (blank inside : Blank) (members : WrittenMembers)
    (short : ((Phrase.object inside members).text ++ rest).length < rounds) (offset : Nat) :
    Gives rest rounds
      (readDatabase ⟨blank.chars ++ ((Phrase.object inside members).text ++ rest), offset, rounds⟩)
      ((foundBehindAll? none members).bind id) := by
  have skipped := Cursor.skipPadding_blank blank ((Phrase.object inside members).visible rest)
    offset rounds
  rw [Phrase.object_text_append, Phrase.memberTexts_eq_map, commaSeparated_eq_partsText]
    at short skipped ⊢
  rw [List.length_cons, List.length_append, List.length_append] at short
  have fuel : members.length < rounds := by
    have count := Cursor.length_le_length_partsText_members true members
    omega
  obtain ⟨last, read⟩ := Cursor.readMembers_gives foundBehind?
    (fun member (_ : member ∈ members) found name rest offset boundary
        (short : (member.2.word.text ++ rest).length < rounds) =>
      readDatabaseMember_gives found name member.1.after member.2.before member.2.word boundary
        short offset)
    true fuel inside rest (by
      rw [List.length_append]
      omega)
  rw [readDatabase]
  simp only [skipped]
  refine (read none _).bind fun found offset _ => ?_
  cases found with
  | none =>
      obtain ⟨stop, stopped⟩ := @stopInObject_stops (Catalog Value × Cursor)
        ⟨last.chars ++ '\x7d' :: rest, offset, rounds⟩ (.missingMember featuresMember)
      show Gives rest rounds (Cursor.stopInObject _ _) none
      rw [stopped]
      exact .failure stop
  | some features =>
      exact (Cursor.closeObject_passes last rest offset).bind fun _ => .value _ _

end Members

/-! ### All members -/

theorem foundBehindAll?_cons (found : Option (Catalog Value))
    (member : Padded StringForm × Padded Phrase) (members : WrittenMembers) :
    foundBehindAll? found (member :: members) =
      (member.1.word.value?.bind fun name => foundBehind? found name member.2.word).bind
        fun found => foundBehindAll? found members := by
  rw [foundBehindAll?, List.foldlM_cons]
  rfl

theorem foundBehindAll?_eq_some_of_others {members : WrittenMembers}
    (others : members.filter namesFeatures = []) {found result : Option (Catalog Value)} :
    foundBehindAll? found members = some result ↔
      (∀ member ∈ members, member.1.word.value?.isSome) ∧ result = found := by
  induction members with
  | nil =>
      constructor
      · intro same
        exact ⟨List.forall_mem_nil _, (Option.some.inj same).symm⟩
      · rintro ⟨_, rfl⟩
        rfl
  | cons member members ih =>
      rw [List.filter_eq_nil_iff, List.forall_mem_cons] at others
      obtain ⟨other, others⟩ := others
      rw [foundBehindAll?_cons, List.forall_mem_cons]
      cases named : member.1.word.value? with
      | none => simp
      | some name =>
          have notFeatures : name ≠ featuresMember := by
            rintro rfl
            exact other (decide_eq_true named)
          rw [Option.bind_some, foundBehind?, if_neg notFeatures, Option.bind_some,
            ih (List.filter_eq_nil_iff.mpr others)]
          simp

/-- **The run.** Of the members at the top one has the features, and the names of the others have
to be readable. -/
theorem foundBehindAll?_eq_some_iff {members : WrittenMembers}
    {features : Padded StringForm × Padded Phrase}
    (single : members.filter namesFeatures = [features]) {result : Option (Catalog Value)} :
    foundBehindAll? none members = some result ↔
      (∀ member ∈ members, member.1.word.value?.isSome) ∧
        ∃ values, featureValues? features.2.word = some values ∧ result = some values := by
  induction members with
  | nil => exact nomatch single
  | cons member members ih =>
      rw [foundBehindAll?_cons, List.forall_mem_cons]
      by_cases isFeatures : namesFeatures member
      · rw [List.filter_cons_of_pos isFeatures] at single
        obtain ⟨rfl, others⟩ := List.cons.inj single
        have named : member.1.word.value? = some featuresMember := of_decide_eq_true isFeatures
        rw [named, Option.bind_some, foundBehind?, if_pos rfl]
        cases featureValues? member.2.word with
        | none => simp
        | some values =>
            simp [foundBehindAll?_eq_some_of_others others]
      · rw [List.filter_cons_of_neg isFeatures] at single
        cases named : member.1.word.value? with
        | none => simp
        | some name =>
            have notFeatures : name ≠ featuresMember := by
              rintro rfl
              exact isFeatures (decide_eq_true named)
            rw [Option.bind_some, foundBehind?, if_neg notFeatures, Option.bind_some, ih single]
            simp

/-! ### Whole texts -/

theorem toOption_map {ε α β : Type} (change : α → β) (result : Except ε α) :
    (result.map change).toOption = result.toOption.map change := by
  cases result <;> rfl

namespace Database

variable {text : String} {members features : WrittenMembers}

/-- **Which texts are read, and as what**: the names at the top have to be readable, and the names
and the values of all features. -/
theorem ofText_eq_ok_iff (holds : HoldsFeatures text members features) {database : Database} :
    ofText text = .ok database ↔
      (∀ member ∈ members, member.1.word.value?.isSome) ∧
        ∃ entries, Phrase.memberValues? features featureLevels = some entries ∧
          database = ofMembers entries := by
  obtain ⟨⟨inside, before, after, split⟩, name, margin, within, behind, single⟩ := holds
  have short : ((Phrase.object inside members).text ++ after.chars).length <
      text.toList.length + 1 := by
    rw [split]
    simp only [List.length_append]
    omega
  have read := readDatabase_gives before inside members short 0
  rw [← split] at read
  rw [← Json.toOption_eq_some_iff, ofText, toOption_map, readWhole_toOption after read,
    Option.map_eq_some_iff]
  simp only [Option.bind_eq_some_iff, foundBehindAll?_eq_some_iff single, featureValues?,
    Option.map_eq_some_iff, id]
  constructor
  · rintro ⟨values, ⟨found, ⟨names, _, ⟨entries, read, rfl⟩, rfl⟩, same⟩, rfl⟩
    obtain rfl := Option.some.inj same
    exact ⟨names, entries, read, rfl⟩
  · rintro ⟨names, entries, read, rfl⟩
    exact ⟨_, ⟨_, ⟨names, _, ⟨entries, read, rfl⟩, rfl⟩, rfl⟩, rfl⟩

/-! ### Each feature by itself -/

theorem find?_ofMembers (entries : List (String × Value)) (key : String) :
    (ofMembers entries).features.find? key =
      (entries.reverse.lookup key).bind Feature.ofValue? := by
  show ((Catalog.ofList entries).filterMap Feature.ofValue?).find? key = _
  simp

theorem find?_ofMembers_single (key : String) (value : Value) :
    (ofMembers [(key, value)]).features.find? key = Feature.ofValue? value := by
  rw [find?_ofMembers, List.reverse_singleton, List.lookup_cons_self, Option.bind_some]

/-- **When a database is read.** The names at the top have to be readable, and of each feature the
name and the value, which must not be too deep. Then each feature is read as if it stood alone: it
is there if it would be there alone, and the same. -/
theorem ofText_isOk_iff (holds : HoldsFeatures text members features) :
    ((∃ database, ofText text = .ok database) ↔
      (∀ member ∈ members, member.1.word.value?.isSome) ∧
        ∀ feature ∈ features, feature.1.word.value?.isSome ∧
          feature.2.word.depth ≤ featureLevels ∧ feature.2.word.Expressible) ∧
    ∀ database, ofText text = .ok database →
      ∃ entries, Phrase.memberValues? features featureLevels = some entries ∧
        ∀ key, database.features.find? key =
          (entries.reverse.lookup key).bind fun value =>
            (ofMembers [(key, value)]).features.find? key := by
  constructor
  · have readable : (∀ feature ∈ features, feature.1.word.value?.isSome ∧
        feature.2.word.depth ≤ featureLevels ∧ feature.2.word.Expressible) ↔
        (Phrase.memberValues? features featureLevels).isSome := by
      rw [Phrase.memberValues?_eq_mapM, isSome_mapM_iff]
      refine forall₂_congr fun feature _ => ?_
      rw [Phrase.isSome_memberValue?_iff, Phrase.isSome_value?_iff]
    rw [readable, Option.isSome_iff_exists]
    constructor
    · rintro ⟨database, read⟩
      obtain ⟨names, entries, values, _⟩ := (ofText_eq_ok_iff holds).mp read
      exact ⟨names, entries, values⟩
    · rintro ⟨names, entries, values⟩
      exact ⟨ofMembers entries, (ofText_eq_ok_iff holds).mpr ⟨names, entries, values, rfl⟩⟩
  · intro database read
    obtain ⟨_, entries, values, rfl⟩ := (ofText_eq_ok_iff holds).mp read
    refine ⟨entries, values, fun key => ?_⟩
    rw [find?_ofMembers]
    simp only [find?_ofMembers_single]

end Database

/-! ### Two databases -/

/-- A string without escapes. -/
def plainForm (text : String) : StringForm :=
  text.toList.filterMap fun c =>
    if isPlain : 0x20 ≤ c.toNat ∧ c ≠ '"' ∧ c ≠ '\\' then some (.plain c isPlain) else none

def unpadded {α : Type} (word : α) : Padded α :=
  ⟨Blank.none, word, Blank.none⟩

def plainMember (name : String) (phrase : Phrase) : Padded StringForm × Padded Phrase :=
  (unpadded (plainForm name), unpadded phrase)

/-- The text of a database without white space and other members. -/
def databaseText (features : WrittenMembers) : String :=
  String.ofList
    (Phrase.object Blank.none [plainMember featuresMember (.object Blank.none features)]).text

theorem holdsFeatures_databaseText (features : WrittenMembers) :
    HoldsFeatures (databaseText features)
      [plainMember featuresMember (.object Blank.none features)] features where
  writes := by
    refine ⟨Blank.none, Blank.none, Blank.none, ?_⟩
    rw [databaseText, String.toList_ofList]
    exact (List.append_nil _).symm
  single := ⟨unpadded (plainForm featuresMember), Blank.none, Blank.none, Blank.none, rfl⟩

/-- An empty entry, and one that is no entry at all. -/
def emptyAndNull : WrittenMembers :=
  [plainMember "gap" (.object Blank.none []), plainMember "bad" .null]

theorem ofText_emptyAndNull :
    ∃ database, Database.ofText (databaseText emptyAndNull) = .ok database ∧
      (database.features.find? "gap").isSome ∧ database.features.find? "bad" = none := by
  obtain ⟨succeeds, alone⟩ := Database.ofText_isOk_iff (holdsFeatures_databaseText emptyAndNull)
  have expressible : ∀ feature ∈ emptyAndNull, feature.2.word.Expressible := by
    have gap : (Phrase.object Blank.none []).Expressible :=
      .object _ _ (List.forall_mem_nil _) (List.forall_mem_nil _)
    exact List.forall_mem_cons.mpr ⟨gap, List.forall_mem_cons.mpr ⟨.null, List.forall_mem_nil _⟩⟩
  have shallow : ∀ feature ∈ emptyAndNull, feature.1.word.value?.isSome ∧
      feature.2.word.depth ≤ featureLevels := by decide
  obtain ⟨database, read⟩ := succeeds.mpr ⟨by decide, fun feature member =>
    ⟨(shallow feature member).1, (shallow feature member).2, expressible feature member⟩⟩
  obtain ⟨entries, values, each⟩ := alone database read
  obtain rfl : [("gap", .object []), ("bad", .null)] = entries := Option.some.inj values
  exact ⟨database, read, by rw [each]; decide, by rw [each]; decide⟩

/-- The number `1e999`. -/
def beyondDoubles : NumberForm where
  isNegative := false
  whole := ⟨['1'], List.cons_ne_nil _ _, List.all_eq_true.mp rfl⟩
  leading := by decide
  fraction := none
  exponent :=
    some ⟨false, none, ⟨['9', '9', '9'], List.cons_ne_nil _ _, List.all_eq_true.mp rfl⟩⟩

/-- An empty entry, and a number that is too large. -/
def emptyAndTooLarge : WrittenMembers :=
  [plainMember "gap" (.object Blank.none []), plainMember "bad" (.number beyondDoubles)]

/-- One feature can keep a database from being read. -/
theorem ofText_emptyAndTooLarge :
    (∃ members features, HoldsFeatures
        "\x7b\"features\":\x7b\"gap\":\x7b\x7d,\"bad\":1e999\x7d\x7d" members features) ∧
      ¬∃ database, Database.ofText
        "\x7b\"features\":\x7b\"gap\":\x7b\x7d,\"bad\":1e999\x7d\x7d" = .ok database := by
  have text : "\x7b\"features\":\x7b\"gap\":\x7b\x7d,\"bad\":1e999\x7d\x7d" =
      databaseText emptyAndTooLarge := by decide
  rw [text]
  have holds := holdsFeatures_databaseText emptyAndTooLarge
  refine ⟨⟨_, _, holds⟩, ?_⟩
  rintro ⟨database, read⟩
  obtain ⟨_, entries, values, _⟩ := (Database.ofText_eq_ok_iff holds).mp read
  have outOfRange : Phrase.memberValues? emptyAndTooLarge featureLevels = none := by decide
  exact nomatch outOfRange.symm.trans values

end StyleBaseline
