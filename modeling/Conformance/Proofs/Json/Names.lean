/-
Values whose members have distinct names.

An object is a list of members, and a list may hold a name twice. What is read
from a text never does (`distinct_of_read?`), and nothing that is done to
members later brings a name in twice. So `Distinct` is what there is to know of
a JSON value beyond its tree, and where it holds the members of an object are
what is found under their names.
-/
import Conformance.Json.Reader
import Conformance.Proofs.Json.Parts

namespace Conformance

-- =============================================================== members

namespace Members

variable {members : Members} {name other : String} {value : Json}

/-- Every member has its name among the names. -/
theorem mem_names_of_mem {m : String × Json} (h : m ∈ members) : m.1 ∈ members.names :=
  List.mem_map_of_mem h

/-- The first member of a name is the one that is found. -/
theorem get?_cons_self (name : String) (value : Json) (rest : Members) :
    get? ((name, value) :: rest) name = some value :=
  List.lookup_cons_self

/-- Nothing is found under a name just if no member has it. -/
theorem get?_eq_none_iff : members.get? name = none ↔ name ∉ members.names := by
  rw [get?, List.lookup_eq_none_iff]
  constructor
  · intro h hmem
    obtain ⟨m, hm, rfl⟩ := List.mem_map.mp hmem
    simpa using h m hm
  · intro h m hm
    simp only [bne_iff_ne, ne_eq]
    rintro rfl
    exact h (mem_names_of_mem hm)

/-- The names are those under which something is found. -/
theorem mem_names_iff : name ∈ members.names ↔ ∃ value, members.get? name = some value := by
  cases h : members.get? name with
  | none => simp [get?_eq_none_iff.mp h]
  | some value =>
      refine ⟨fun _ => ⟨value, rfl⟩, fun _ => ?_⟩
      exact mem_names_of_mem (mem_of_get? h)

/-- Where names are distinct, a member is what is found under its name. -/
theorem get?_eq_some_iff (hnames : members.names.Nodup) :
    members.get? name = some value ↔ (name, value) ∈ members := by
  refine ⟨mem_of_get?, fun h => ?_⟩
  induction members with
  | nil => cases h
  | cons m rest ih =>
      obtain ⟨hm, hrest⟩ := List.nodup_cons.mp hnames
      rcases List.mem_cons.mp h with rfl | h
      · exact get?_cons_self name value rest
      · have hne : m.1 ≠ name := by
          rintro rfl
          have hmem := mem_names_of_mem h
          exact hm hmem
        rw [get?_cons_of_ne hne]
        exact ih hrest h

/-- What stands in front is found first. -/
theorem get?_append (front back : Members) (name : String) :
    get? (front ++ back) name = (front.get? name).or (back.get? name) :=
  List.lookup_append

/-- What is found among replaced values is the replacement of what was found. -/
theorem get?_map (f : String → Json → Json) (members : Members) (name : String) :
    get? (members.map fun m => (m.1, f m.1 m.2)) name = (members.get? name).map (f name) := by
  induction members with
  | nil => rfl
  | cons m rest ih =>
      obtain ⟨n, x⟩ := m
      rw [List.map_cons]
      by_cases heq : n = name
      · subst heq
        rw [get?_cons_self, get?_cons_self, Option.map_some]
      · rw [get?_cons_of_ne heq, get?_cons_of_ne heq, ih]

-- ============================================================= operations

/-- To erase a name takes away all members that have it. -/
theorem get?_erase_self (members : Members) (name : String) :
    (members.erase name).get? name = none := by
  refine get?_eq_none_iff.mpr fun hmem => ?_
  obtain ⟨m, hm, hname⟩ := List.mem_map.mp hmem
  simpa [hname] using (List.mem_filter.mp hm).2

/-- Other names are left alone. -/
theorem get?_erase_of_ne (h : name ≠ other) (members : Members) :
    (members.erase name).get? other = members.get? other := by
  induction members with
  | nil => rfl
  | cons m rest ih =>
      obtain ⟨n, v⟩ := m
      rw [erase] at ih
      rw [erase, List.filter_cons]
      split
      · by_cases hn : n = other
        · subst hn
          rw [get?_cons_self, get?_cons_self]
        · rw [get?_cons_of_ne hn, get?_cons_of_ne hn, ih]
      · next hname =>
        have hn : n = name := by simpa using hname
        rw [get?_cons_of_ne (hn ▸ h), ih]

/-- Names that are distinct stay so when members are taken out. -/
theorem nodup_names_erase (h : members.names.Nodup) (name : String) :
    (members.erase name).names.Nodup :=
  h.sublist (List.filter_sublist.map _)

/-- To put in a member brings its name, if it was not there. -/
theorem mem_names_insert :
    other ∈ (members.insert name value).names ↔ other = name ∨ other ∈ members.names := by
  rw [mem_names_iff, mem_names_iff]
  by_cases h : name = other
  · subst h
    simp [get?_insert_self]
  · simp [get?_insert_of_ne h, Ne.symm h]

/-- They also stay distinct when a member is put in, as it takes the place of another of
its name. -/
theorem nodup_names_insert (h : members.names.Nodup) (name : String) (value : Json) :
    (members.insert name value).names.Nodup := by
  induction members with
  | nil => exact List.nodup_singleton name
  | cons m rest ih =>
      obtain ⟨n, v⟩ := m
      obtain ⟨hn, hrest⟩ := List.nodup_cons.mp h
      rw [insert]
      split
      · exact List.nodup_cons.mpr ⟨hn, hrest⟩
      · next hne =>
        refine List.nodup_cons.mpr ⟨fun hmem => ?_, ih hrest⟩
        rcases mem_names_insert.mp hmem with heq | hmem
        · exact hne heq
        · exact hn hmem

/-- So they do when an object is laid over, even one whose own names are not distinct. -/
theorem nodup_names_merge {base top : Members} (h : base.names.Nodup) :
    (base.merge top).names.Nodup := by
  induction top generalizing base with
  | nil => exact h
  | cons e rest ih => exact ih (nodup_names_insert h e.1 e.2)

/-- Of what is laid over an object, the fields come first. -/
theorem get?_merge {base top : Members} (htop : top.names.Nodup) (name : String) :
    (base.merge top).get? name = (top.get? name).or (base.get? name) := by
  induction top generalizing base with
  | nil => rfl
  | cons e rest ih =>
      obtain ⟨n, v⟩ := e
      obtain ⟨hn, hrest⟩ := List.nodup_cons.mp htop
      show Members.get? (Members.merge (base.insert n v) rest) name = _
      rw [ih hrest]
      by_cases h : n = name
      · subst h
        rw [get?_eq_none_iff.mpr hn, get?_insert_self, get?_cons_self]
        rfl
      · rw [get?_insert_of_ne h, get?_cons_of_ne h]

/-- What is put under a new name comes last. -/
theorem insert_of_not_mem (h : name ∉ members.names) (value : Json) :
    members.insert name value = members ++ [(name, value)] := by
  induction members with
  | nil => rfl
  | cons m rest ih =>
      obtain ⟨n, v⟩ := m
      have hne : n ≠ name := fun heq => h (heq ▸ List.mem_cons_self ..)
      rw [insert, if_neg hne, ih fun hmem => h (List.mem_cons_of_mem _ hmem)]
      rfl

/-- Where no name stands on both sides, to lay one object over the other is to put it
behind. -/
theorem merge_of_nodup {base top : Members} (h : (base ++ top).names.Nodup) :
    base.merge top = base ++ top := by
  induction top generalizing base with
  | nil => exact (List.append_nil base).symm
  | cons e rest ih =>
      have hsplit : base ++ e :: rest = base ++ [e] ++ rest := List.append_cons ..
      have hnew : e.1 ∉ base.names := by
        intro hmem
        rw [names, List.map_append] at h
        exact (List.nodup_append.mp h).2.2 _ hmem _ (List.mem_cons_self ..) rfl
      show Members.merge (base.insert e.1 e.2) rest = _
      rw [insert_of_not_mem hnew, hsplit]
      exact ih (hsplit ▸ h)

/-- A list of members with distinct names is an object as it stands. -/
theorem ofList_of_nodup {entries : Members} (h : entries.names.Nodup) :
    ofList entries = entries := by
  show merge [] entries = [] ++ entries
  exact merge_of_nodup h

-- ============================================================ collecting

section

/-! Members that are made from the items of a list, each under its key, where
there is something to put there. -/

variable {α : Type} (key : α → String) (value? : α → Option Json) {items : List α}

/-- The members that items yield, each under the key of its item, where an item need not
yield any. -/
def collect (items : List α) : Members := items.filterMap fun a => (value? a).map (key a, ·)

/-- The keys are kept in their order, and some of them may drop out. -/
theorem names_collect_sublist (items : List α) :
    (collect key value? items).names.Sublist (items.map key) := by
  induction items with
  | nil => exact .slnil
  | cons a rest ih =>
      rw [collect] at ih
      rw [collect, List.filterMap_cons]
      cases value? a with
      | none => exact .cons _ ih
      | some x => exact .cons_cons _ ih

variable {key} in
/-- Under other names than the keys there is nothing. -/
theorem get?_collect_of_forall_ne (h : ∀ a ∈ items, key a ≠ name) :
    (collect key value? items).get? name = none := by
  refine get?_eq_none_iff.mpr fun hmem => ?_
  obtain ⟨a, ha, hname⟩ := List.mem_map.mp ((names_collect_sublist key value? items).subset hmem)
  exact h a ha hname

variable {key} in
/-- Where keys are distinct, the members are found under the keys of their items. -/
theorem get?_collect_of_mem (hnodup : (items.map key).Nodup) {a : α} (ha : a ∈ items) :
    (collect key value? items).get? (key a) = value? a := by
  induction items with
  | nil => cases ha
  | cons b rest ih =>
      obtain ⟨hb, hrest⟩ := List.nodup_cons.mp hnodup
      rw [collect] at ih
      rw [collect, List.filterMap_cons]
      rcases List.mem_cons.mp ha with rfl | ha
      -- the item is the first, and no later one has its key
      · cases hvalue : value? a with
        | none =>
            have hne : ∀ b ∈ rest, key b ≠ key a := fun b hmem hname =>
              hb (hname ▸ List.mem_map_of_mem hmem)
            exact get?_collect_of_forall_ne value? hne
        | some x => exact get?_cons_self ..
      -- it comes later, so the first one has another key
      · have hne : key b ≠ key a := fun heq => hb (heq ▸ List.mem_map_of_mem ha)
        cases value? b with
        | none => exact ih hrest ha
        | some x => exact (get?_cons_of_ne hne ..).trans (ih hrest ha)

/-- What is collected from collected members is the same, if each value is left as it
is. -/
theorem collect_collect {f g : String × Json → Option Json} {ms : Members}
    (h : ∀ m ∈ ms, ∀ y, f m = some y → g (m.1, y) = some y) :
    collect Prod.fst g (collect Prod.fst f ms) = collect Prod.fst f ms := by
  unfold collect
  rw [List.filterMap_filterMap]
  refine List.filterMap_congr fun m hm => ?_
  cases hf : f m with
  | none => rfl
  | some y =>
      rw [Option.map_some, Option.bind_some, h m hm y hf]
      rfl

end

end Members

-- ================================================================ values

namespace Json

/-- Induction over a value: what holds of an array or an object if it holds of
what is in it, holds of every value. -/
@[elab_as_elim]
theorem induction {motive : Json → Prop} (null : motive null) (bool : ∀ b, motive (bool b))
    (number : ∀ n, motive (number n)) (string : ∀ s, motive (string s))
    (array : ∀ items, (∀ x ∈ items, motive x) → motive (array items))
    (object : ∀ members : Members, (∀ m ∈ members, motive m.2) → motive (object members))
    (x : Json) : motive x := by
  refine @Json.rec motive (fun items => ∀ x ∈ items, motive x)
    (fun members => ∀ m ∈ members, motive m.2) (fun m => motive m.2)
    null bool number string array object ?noItem ?item ?noMember ?member ?named x
  case noItem => exact fun _ hx => absurd hx List.not_mem_nil
  case item =>
    intro head tail hhead htail x hx
    rcases List.mem_cons.mp hx with rfl | hx
    · exact hhead
    · exact htail x hx
  case noMember => exact fun _ hm => absurd hm List.not_mem_nil
  case member =>
    intro head tail hhead htail m hm
    rcases List.mem_cons.mp hm with rfl | hm
    · exact hhead
    · exact htail m hm
  case named => exact fun _ _ h => h

/-- No object in the value has two members of one name. -/
inductive Distinct : Json → Prop
  | null : Distinct null
  | bool (b : Bool) : Distinct (bool b)
  | number (n : Number) : Distinct (number n)
  | string (s : String) : Distinct (string s)
  | array {items : List Json} (hitems : ∀ x ∈ items, Distinct x) : Distinct (array items)
  | object {members : Members} (hnames : members.names.Nodup)
      (hmembers : ∀ m ∈ members, Distinct m.2) : Distinct (object members)

attribute [simp] Distinct.null Distinct.bool Distinct.number Distinct.string

/-- In an array this is asked of the items. -/
@[simp] theorem distinct_array {items : List Json} :
    (array items).Distinct ↔ ∀ x ∈ items, x.Distinct :=
  ⟨fun h => by cases h with | array hitems => exact hitems, .array⟩

/-- In an object the names must be distinct, and so must those within each member. -/
@[simp] theorem distinct_object {members : Members} :
    (object members).Distinct ↔ members.names.Nodup ∧ ∀ m ∈ members, m.2.Distinct :=
  ⟨fun h => by cases h with | object hnames hmembers => exact ⟨hnames, hmembers⟩,
    fun h => .object h.1 h.2⟩

end Json

namespace Members

/-- The members are those of an object with distinct names, at any depth. -/
def Distinct (members : Members) : Prop := (Json.object members).Distinct

namespace Distinct

variable {members base top : Members} {name : String} {x : Json}

/-- The names of the members themselves. -/
theorem names (h : members.Distinct) : members.names.Nodup := (Json.distinct_object.mp h).1

/-- Each member has distinct names within. -/
theorem of_mem (h : members.Distinct) {m : String × Json} (hm : m ∈ members) : m.2.Distinct :=
  (Json.distinct_object.mp h).2 m hm

theorem get? (h : members.Distinct) (hget : members.get? name = some x) : x.Distinct :=
  h.of_mem (mem_of_get? hget)

/-- What the compiler does to a schema keeps names distinct: members are taken out, put
in, and laid over others. -/
theorem erase (h : members.Distinct) (name : String) : (members.erase name).Distinct :=
  .object (nodup_names_erase h.names name) fun _ hm => h.of_mem (List.mem_filter.mp hm).1

theorem insert (h : members.Distinct) (name : String) (hx : x.Distinct) :
    (members.insert name x).Distinct := by
  refine .object (nodup_names_insert h.names name x) fun m hm => ?_
  rcases mem_of_mem_insert hm with rfl | hm
  · exact hx
  · exact h.of_mem hm

theorem merge (h : base.Distinct) (htop : ∀ m ∈ top, m.2.Distinct) :
    (base.merge top).Distinct := by
  refine .object (nodup_names_merge h.names) fun m hm => ?_
  rcases mem_of_mem_merge hm with hm | hm
  · exact h.of_mem hm
  · exact htop m hm

theorem nil : Distinct [] := .object List.nodup_nil fun _ hm => absurd hm List.not_mem_nil

/-- An object that is put together member by member has distinct names, even if a name
comes up more than once on the way. -/
theorem ofList {entries : List (String × Json)} (h : ∀ m ∈ entries, m.2.Distinct) :
    (ofList entries).Distinct :=
  nil.merge h

end Distinct

end Members

-- =============================================================== reading

/-- What holds of the values of numerals and of strings, and is kept by arrays and by
objects, whose members are merged by name as they are read. -/
structure Json.KeptInReading (P : Json → Prop) : Prop where
  null : P .null
  bool : ∀ b, P (.bool b)
  number : ∀ (numeral : Numeral) n, numeral.value? = some n → P (.number n)
  string : ∀ s, P (.string s)
  array : ∀ items, (∀ x ∈ items, P x) → P (.array items)
  object : ∀ members : List (String × Json), (∀ m ∈ members, P m.2) →
    P (.object (Members.ofList members))

namespace Transcript

variable {P : Json → Prop}

mutual

/-- Such a property holds of what a transcript is read to. The recursion is the reader's. -/
theorem holds_of_toJson? (hP : Json.KeptInReading P) : ∀ (depth : Nat) (t : Transcript) {x : Json},
    t.toJson? depth = some x → P x
  | _, null, _, h => by
    cases h
    exact hP.null
  | _, bool b, _, h => by
    cases h
    exact hP.bool b
  | _, number numeral, _, h => by
    obtain ⟨n, hn, rfl⟩ := Option.map_eq_some_iff.mp h
    exact hP.number numeral n hn
  | _, string text, _, h => by
    obtain ⟨s, -, rfl⟩ := Option.map_eq_some_iff.mp h
    exact hP.string s
  | 0, array items, _, h => by cases h
  | depth + 1, array items, _, h => by
    obtain ⟨xs, hxs, rfl⟩ := Option.map_eq_some_iff.mp h
    exact hP.array xs (holds_of_itemsToJson? hP depth items hxs)
  | 0, object members, _, h => by cases h
  | depth + 1, object members, _, h => by
    obtain ⟨ms, hms, rfl⟩ := Option.map_eq_some_iff.mp h
    exact hP.object ms (holds_of_membersToJson? hP depth members hms)

/-- The items are read one by one. -/
theorem holds_of_itemsToJson? (hP : Json.KeptInReading P) : ∀ (depth : Nat)
    (items : List Transcript) {xs : List Json},
    itemsToJson? depth items = some xs → ∀ x ∈ xs, P x
  | _, [], _, h => by
    cases h
    exact fun _ hx => absurd hx List.not_mem_nil
  | depth, t :: rest, _, h => by
    simp only [itemsToJson?, Option.bind_eq_bind, Option.bind_eq_some_iff, Option.pure_def,
      Option.some.injEq] at h
    obtain ⟨v, hv, vs, hvs, rfl⟩ := h
    exact List.forall_mem_cons.mpr
      ⟨holds_of_toJson? hP depth t hv, holds_of_itemsToJson? hP depth rest hvs⟩

/-- Of the members only the values are to be considered, whatever their names are read to. -/
theorem holds_of_membersToJson? (hP : Json.KeptInReading P) : ∀ (depth : Nat)
    (members : List (Option String × Transcript)) {ms : List (String × Json)},
    membersToJson? depth members = some ms → ∀ m ∈ ms, P m.2
  | _, [], _, h => by
    cases h
    exact fun _ hm => absurd hm List.not_mem_nil
  | depth, (name, t) :: rest, _, h => by
    simp only [membersToJson?, Option.bind_eq_bind, Option.bind_eq_some_iff, Option.pure_def,
      Option.some.injEq] at h
    obtain ⟨_, -, v, hv, ms, hms, rfl⟩ := h
    exact List.forall_mem_cons.mpr
      ⟨holds_of_toJson? hP depth t hv, holds_of_membersToJson? hP depth rest hms⟩

end

end Transcript

namespace Json

variable {text : String} {x : Json}

/-- So it holds of every value that is read from a text. -/
theorem holds_of_read? {P : Json → Prop} (hP : KeptInReading P) (h : read? text = some x) :
    P x := by
  obtain ⟨t, -, ht⟩ := Option.bind_eq_some_iff.mp h
  exact t.holds_of_toJson? hP _ ht

/-- What is read from a text has distinct names. -/
theorem distinct_of_read? (h : read? text = some x) : x.Distinct := by
  have hkept : KeptInReading Distinct :=
    { null := .null
      bool := .bool
      number := fun _ n _ => .number n
      string := .string
      array := fun _ => .array
      object := fun _ => Members.Distinct.ofList }
  exact holds_of_read? hkept h

end Json

end Conformance
