import BenchFigures.Json.Dialect
import BenchFigures.Proofs.Traversals

/-!
# Records in JSON

The keys of an object are texts, and a key denotes a string if it has no gap. An object whose
keys all denote strings is a record: some of its members have a known name and the others are
passed over, whatever they hold. A record says something about a field by the one member with
its name, or by having none.

What a record says does not depend on the order of its members, nor on those that are passed
over. An object in which a known name is given twice is no record.
-/

namespace BenchFigures.Json

/-! ### Keys -/

/-- The text that denotes a string. -/
def Text.ofString (string : String) : Text := string.toList.map some

/-- A text without gaps is the text of its characters. -/
theorem Text.characters?_eq_some_iff (text : Text) (characters : List Char) :
    Text.characters? text = some characters ↔ text = characters.map some := by
  rw [Text.characters?, mapM_eq_some_iff]
  simp only [id_eq]
  rw [← List.forall₂_map_right_iff (f := some), List.forall₂_eq_eq_eq]

/-- The text that denotes a string gives the string. -/
theorem Text.characters?_ofString (string : String) :
    Text.characters? (Text.ofString string) = some string.toList :=
  (Text.characters?_eq_some_iff _ _).2 rfl

/-- The object of some members, each with a string as its key. -/
def ofMembers (members : List (String × Json)) : Json :=
  .object (members.map fun member => (Text.ofString member.1, member.2))

/-- The members with one of some names. -/
def known (names : List String) (members : List (String × Json)) : List (String × Json) :=
  members.filter fun member => names.contains member.1

/-- The known members of an object are found exactly if all of its keys denote strings. -/
theorem members?_object_eq_some_iff (names : List String) (members : List (Text × Json))
    (found : List (String × Json)) :
    members? names (.object members) = some found ↔
      ∃ named, .object members = ofMembers named ∧ known names named = found := by
  have keyed (member : Text × Json) (named : String × Json) :
      (do return (String.ofList (← Text.characters? member.1), member.2)) = some named ↔
        member = (Text.ofString named.1, named.2) := by
    obtain ⟨key, value⟩ := member
    obtain ⟨name, other⟩ := named
    constructor
    · intro read
      simp only [Option.bind_eq_bind, Option.bind_eq_some_iff, Text.characters?_eq_some_iff,
        Option.pure_def, Option.some.injEq, Prod.mk.injEq] at read
      obtain ⟨characters, rfl, rfl, rfl⟩ := read
      rw [Text.ofString, String.toList_ofList]
    · rintro ⟨⟩
      simp [Text.characters?_ofString]
  have listed (named : List (String × Json)) :
      (members.mapM fun member => do
        return (String.ofList (← Text.characters? member.1), member.2)) = some named ↔
          .object members = ofMembers named := by
    simp only [mapM_eq_some_iff, keyed, ofMembers, object.injEq]
    rw [← List.forall₂_map_right_iff (f := fun named : String × Json =>
      (Text.ofString named.1, named.2)), List.forall₂_eq_eq_eq]
  rw [members?, membersNamed]
  change Option.bind _ _ = _ ↔ _
  rw [Option.bind_eq_some_iff]
  exact exists_congr fun named => and_congr (listed named) Option.some_inj

/-! ### Known names -/

/-- No known name is given twice. -/
def AtMostOnce (names : List String) (members : List (String × Json)) : Prop :=
  ∀ name ∈ names, (members.map Prod.fst).count name ≤ 1

instance (names : List String) (members : List (String × Json)) :
    Decidable (AtMostOnce names members) :=
  inferInstanceAs (Decidable (∀ name ∈ names, (members.map Prod.fst).count name ≤ 1))

/-- Members with other names do not count for a known one. -/
theorem count_known {names : List String} {name : String} (listed : name ∈ names)
    (members : List (String × Json)) :
    ((known names members).map Prod.fst).count name = (members.map Prod.fst).count name := by
  have filtered : (known names members).map Prod.fst =
      (members.map Prod.fst).filter fun name => names.contains name := by
    rw [List.filter_map]
    rfl
  rw [filtered, List.count_filter (by simpa using listed)]

/-- Known members have different names exactly if no known name is given twice. -/
theorem nodup_known_iff (names : List String) (members : List (String × Json)) :
    ((known names members).map Prod.fst).Nodup ↔ AtMostOnce names members := by
  rw [List.nodup_iff_count_le_one]
  constructor
  · intro single name listed
    rw [← count_known listed]
    exact single name
  · intro single name
    by_cases listed : name ∈ names
    · rw [count_known listed]
      exact single name listed
    · have absent : name ∉ (known names members).map Prod.fst := by
        simp [known, listed]
      rw [List.count_eq_zero.2 absent]
      exact Nat.zero_le 1

/-- A record of an object has its known members, if no known name is given twice. -/
theorem record?_ofMembers (names : List String) (members : List (String × Json)) :
    dialect.record? names (ofMembers members) =
      if ((known names members).map Prod.fst).Nodup then some (known names members) else none := by
  have found : dialect.members? names (ofMembers members) = some (known names members) :=
    (members?_object_eq_some_iff names _ _).2 ⟨members, rfl, rfl⟩
  rw [Dialect.record?, found]
  rfl

/-- What is given under a name that is used once is found. -/
theorem lookup_eq_some_iff_mem {α : Type} {members : List (String × α)} {name : String} {value : α}
    (single : (members.map Prod.fst).Nodup) :
    members.lookup name = some value ↔ (name, value) ∈ members := by
  induction members with
  | nil => simp
  | cons member others inductionHypothesis =>
    obtain ⟨first, given⟩ := member
    rw [List.map_cons, List.nodup_cons] at single
    by_cases same : name = first
    · subst same
      have unused : (name, value) ∉ others := fun member =>
        single.1 (List.mem_map.2 ⟨_, member, rfl⟩)
      simp [unused, eq_comm]
    · have differs : (name == first) = false := beq_eq_false_iff_ne.2 same
      simp [List.lookup_cons, differs, same, inductionHypothesis single.2]

/-! ### What is said about a field -/

/-- What members say about a field: what the member with its name shows, and the default if there
is none. -/
inductive Settles {α : Type} (members : List (String × Json)) (name : String)
    (shows : Json → α → Prop) (standard : α) : α → Prop
  | given {value : Json} {result : α} (member : (name, value) ∈ members)
    (shown : shows value result) : Settles members name shows standard result
  | absent (missing : name ∉ members.map Prod.fst) : Settles members name shows standard standard

/-- A field has what is said about it. -/
theorem Settles.field_known {α : Type} {names : List String} {members : List (String × Json)}
    {name : String} {shows : Json → α → Prop} {standard result : α} {read : Json → Option α}
    (settled : Settles members name shows standard result) (single : AtMostOnce names members)
    (listed : name ∈ names)
    (reads : ∀ value result, shows value result → read value = some result) :
    Dialect.field (known names members) name standard read = some result := by
  rw [Dialect.field]
  cases settled with
  | @given value _ member shown =>
    have found : (known names members).lookup name = some value := by
      rw [lookup_eq_some_iff_mem ((nodup_known_iff names members).2 single)]
      simpa [known, listed] using member
    rw [found]
    exact reads value result shown
  | absent missing =>
    have nothing : (known names members).lookup name = none := by
      rw [List.lookup_eq_none_iff]
      intro member inside
      rw [bne_iff_ne]
      rintro rfl
      exact missing (List.mem_map_of_mem (List.mem_of_mem_filter inside))
    rw [nothing]

/-! ### Order and other members -/

/-- Two objects with the same known members as far as the order and a relation between the values
go. -/
def SameRecord (names : List String) (same : String → Json → Json → Prop)
    (first second : Json) : Prop :=
  ∃ members reordered others, first = ofMembers members ∧ second = ofMembers others ∧
    List.Forall₂ (fun one other => one.1 = other.1 ∧ same one.1 one.2 other.2)
      (known names members) reordered ∧ reordered.Perm (known names others)

/-- Related members have related values. -/
theorem lookup_alike {same : String → Json → Json → Prop} {first second : List (String × Json)}
    (alike : List.Forall₂ (fun one other => one.1 = other.1 ∧ same one.1 one.2 other.2)
      first second) (name : String) :
    Option.Rel (same name) (first.lookup name) (second.lookup name) := by
  induction alike with
  | nil => exact .none
  | @cons one other _ _ here _ inductionHypothesis =>
    obtain ⟨named, related⟩ := here
    rw [List.lookup_cons, List.lookup_cons, ← named]
    by_cases found : name = one.1
    · subst found
      simpa using Option.Rel.some related
    · have differs : (name == one.1) = false := beq_eq_false_iff_ne.2 found
      rw [differs]
      exact inductionHypothesis

/-- The order of members with different names does not matter. -/
theorem lookup_perm {first second : List (String × Json)} (permuted : first.Perm second)
    (single : (first.map Prod.fst).Nodup) (name : String) :
    first.lookup name = second.lookup name := by
  have singleToo : (second.map Prod.fst).Nodup := (permuted.map Prod.fst).nodup_iff.1 single
  ext value
  rw [lookup_eq_some_iff_mem single, lookup_eq_some_iff_mem singleToo, permuted.mem_iff]

/-- Two ways to give the same record are both refused or have related values. -/
theorem SameRecord.record? {names : List String} {same : String → Json → Json → Prop}
    {first second : Json} (alike : SameRecord names same first second) :
    Option.Rel (fun members others => ∀ name, Option.Rel (same name) (members.lookup name)
      (others.lookup name)) (dialect.record? names first) (dialect.record? names second) := by
  obtain ⟨members, reordered, others, rfl, rfl, related, permuted⟩ := alike
  have named : (known names members).map Prod.fst = reordered.map Prod.fst := by
    rw [map_eq_map_iff_forall₂]
    exact related.imp fun _ _ here => here.1
  have singleIff : ((known names members).map Prod.fst).Nodup ↔
      ((known names others).map Prod.fst).Nodup := by
    rw [named]
    exact (permuted.map Prod.fst).nodup_iff
  rw [record?_ofMembers, record?_ofMembers]
  by_cases single : ((known names members).map Prod.fst).Nodup
  · rw [if_pos single, if_pos (singleIff.1 single)]
    refine .some fun name => ?_
    rw [← lookup_perm permuted (named ▸ single)]
    exact lookup_alike related name
  · rw [if_neg single, if_neg fun singleToo => single (singleIff.2 singleToo)]
    exact .none

/-- A field that is read the same from related values is the same. -/
theorem field_alike {α : Type} {same : Json → Json → Prop} {members others : List (String × Json)}
    {name : String} {standard : α} {read : Json → Option α}
    (alike : Option.Rel same (members.lookup name) (others.lookup name))
    (reads : ∀ value other, same value other → read value = read other) :
    Dialect.field members name standard read = Dialect.field others name standard read := by
  rw [Dialect.field, Dialect.field]
  generalize members.lookup name = value, others.lookup name = other at alike
  cases alike with
  | none => rfl
  | some related => exact reads _ _ related

/-- A field that is read from the same value is the same. -/
theorem field_congr {α : Type} {members others : List (String × Json)}
    (agree : ∀ name, Option.Rel Eq (members.lookup name) (others.lookup name)) (name : String)
    (standard : α) (read : Json → Option α) :
    Dialect.field members name standard read = Dialect.field others name standard read :=
  field_alike (agree name) fun _ _ same => congrArg read same

/-- What is made of the fields of a record is the same for two ways to give the record. -/
theorem SameRecord.bind {α : Type} {names : List String} {same : String → Json → Json → Prop}
    {first second : Json} (alike : SameRecord names same first second)
    {build : List (String × Json) → Option α}
    (builds : ∀ members others, (∀ name, Option.Rel (same name) (members.lookup name)
      (others.lookup name)) → build members = build others) :
    (dialect.record? names first >>= build) = (dialect.record? names second >>= build) := by
  have records := alike.record?
  generalize dialect.record? names first = members, dialect.record? names second = others
    at records
  cases records with
  | none => rfl
  | some agree => exact builds _ _ agree

/-! ### Repeated names -/

/-- An object in which a known name is given twice. -/
def Repeats (names : List String) (value : Json) : Prop :=
  ∃ members, value = .object members ∧
    ∃ name ∈ names, 2 ≤ (members.map Prod.fst).count (Text.ofString name)

/-- Different strings are denoted by different texts. -/
theorem Text.ofString_injective : Function.Injective Text.ofString := by
  intro first second same
  have characters := Text.characters?_ofString first
  rw [same, Text.characters?_ofString] at characters
  exact (String.toList_inj.1 (Option.some.inj characters)).symm

/-- An object that is a record has the known members it is found to have. -/
theorem exists_ofMembers_of_record? {names : List String} {members : List (Text × Json)}
    {found : List (String × Json)}
    (recorded : dialect.record? names (.object members) = some found) :
    ∃ named, .object members = ofMembers named ∧ known names named = found ∧
      (found.map Prod.fst).Nodup := by
  have unfolded : dialect.record? names (.object members) =
      (members? names (.object members)).bind fun members =>
        if (members.map Prod.fst).Nodup then some members else none := rfl
  rw [unfolded, Option.bind_eq_some_iff] at recorded
  obtain ⟨inner, given, single⟩ := recorded
  obtain ⟨named, same, rfl⟩ := (members?_object_eq_some_iff names members inner).1 given
  split at single
  · next nodup =>
    obtain rfl := Option.some.inj single
    exact ⟨named, same, rfl, nodup⟩
  · simp at single

/-- An object in which a known name is given twice is no record. -/
theorem Repeats.record? {names : List String} {value : Json} (repeated : Repeats names value) :
    dialect.record? names value = none := by
  obtain ⟨members, rfl, name, listed, twice⟩ := repeated
  rw [Option.eq_none_iff_forall_ne_some]
  intro found recorded
  obtain ⟨named, same, rfl, single⟩ := exists_ofMembers_of_record? recorded
  rw [nodup_known_iff] at single
  have once := single name listed
  rw [ofMembers, object.injEq] at same
  have counted : (members.map Prod.fst).count (Text.ofString name) =
      (named.map Prod.fst).count name := by
    rw [same, List.map_map, ← List.count_map_of_injective _ _ Text.ofString_injective, List.map_map]
    rfl
  omega

/-- What is given under a known name of a record is found. -/
theorem lookup_of_record? {names : List String} {members : List (Text × Json)}
    {found : List (String × Json)} {name : String} {value : Json}
    (recorded : dialect.record? names (.object members) = some found) (listed : name ∈ names)
    (given : (Text.ofString name, value) ∈ members) : found.lookup name = some value := by
  obtain ⟨named, same, rfl, single⟩ := exists_ofMembers_of_record? recorded
  rw [lookup_eq_some_iff_mem single]
  rw [ofMembers, object.injEq] at same
  rw [same, List.mem_map] at given
  obtain ⟨⟨other, held⟩, member, equal⟩ := given
  obtain ⟨sameText, rfl⟩ := Prod.mk.inj equal
  obtain rfl := Text.ofString_injective sameText
  simpa [known, listed] using member

end BenchFigures.Json
