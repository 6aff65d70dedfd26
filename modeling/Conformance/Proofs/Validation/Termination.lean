/-
Validation comes to an end.

A validator with deferred references in it is not a finite tree: each of them
stands for another validator, with deferred references of its own. What a
validator asks of others is a relation on pairs of a validator and data, and
`wellFounded_asks` says that there is no infinite chain of it, whatever the
definitions refer to.

The argument has two parts. A chain that looks into the data ends because data
is finite. A chain that stays at the same data passes through unions, optional
nodes and shared nodes, which are finite too, and through deferred references,
each of which has fewer marks than the one before.

So the recursion through deferred references is sound without any guard: there
is exactly one way to answer for them that passes every question on.
`resolution_terminates` says this, with the bound for what the compiler makes.
-/
import Conformance.Proofs.Validation.Unguarded

namespace Conformance

/-- What a validator is asked about: a value, or the absence of one. -/
abbrev Data := Option Json

namespace Validator

-- ================================================================= steps

/-- The second validator is asked about the same data as the first. -/
inductive Stays : Validator → Validator → Prop
  | variant {variants : List Validator} {v : Validator} (hv : v ∈ variants) :
      Stays (.union variants) v
  | inner (inner : Validator) : Stays (.optional inner) inner
  | target (number : Nat) (target : Validator) : Stays (.shared number target) target
  | resolved {d : Deferred} {t : Validator} (h : d.target = .ok t) : Stays (.deferred d) t

/-- To answer about some data, the first validator asks the second about the same
data, about an item or a member, or about a member that is not there. Parsing,
checking and looking for the alternative that accepts a value go these ways, and
so does asking whether absence is acceptable, which is a question about no
value. -/
inductive Asks : Validator × Data → Validator × Data → Prop
  | stays {v w : Validator} (h : Stays v w) (data : Data) : Asks (v, data) (w, data)
  | item {items : Validator} {bounds : ItemBounds} {values : List Json} {x : Json}
      (hx : x ∈ values) : Asks (.array items bounds, some (.array values)) (items, some x)
  | member {properties : List (Property Validator)} {additional : Additional Validator}
      {members : Members} {p : Property Validator} {x : Json} (hp : p ∈ properties)
      (hx : members.get? p.name = some x) :
      Asks (.object properties additional, some (.object members)) (p.validator, some x)
  | missing {properties : List (Property Validator)} {additional : Additional Validator}
      {members : Members} {p : Property Validator} (hp : p ∈ properties)
      (hx : members.get? p.name = none) :
      Asks (.object properties additional, some (.object members)) (p.validator, none)
  | other {properties : List (Property Validator)} {catchAll : Validator} {members : Members}
      {m : String × Json} (hm : m ∈ members) :
      Asks (.object properties (.schema catchAll), some (.object members)) (catchAll, some m.2)

/-- Who is asked stands right beneath the node, or is what its reference stands for. -/
theorem Asks.part_or_target {v w : Validator} {data inside : Data}
    (h : Asks (v, data) (w, inside)) :
    v.Part w ∨ ∃ d, v = .deferred d ∧ d.target = .ok w := by
  cases h with
  | stays hstay =>
      cases hstay with
      | variant hv => exact .inl (.variant hv)
      | inner => exact .inl .inner
      | target => exact .inl .target
      | resolved ht => exact .inr ⟨_, rfl, ht⟩
  | item => exact .inl .items
  | member hp => exact .inl (.property hp)
  | missing hp => exact .inl (.property hp)
  | other => exact .inl .other

/-- How much data there is. -/
def dataHeight : Data → Nat
  | none => 0
  | some x => x.height + 1

/-- Who is asked about other data is asked about less. -/
theorem Asks.stays_or_lt {v w : Validator} {data inside : Data}
    (h : Asks (v, data) (w, inside)) :
    Stays v w ∧ inside = data ∨ dataHeight inside < dataHeight data := by
  cases h with
  | stays h => exact .inl ⟨h, rfl⟩
  | item hx => exact .inr (Nat.succ_lt_succ (Json.height_lt_of_item hx))
  | member _ hx =>
      exact .inr (Nat.succ_lt_succ (Json.height_lt_of_member (Members.mem_of_get? hx)))
  | missing => exact .inr (Nat.succ_pos _)
  | other hm => exact .inr (Nat.succ_lt_succ (Json.height_lt_of_member hm))

-- ========================================================= no infinite chain

/-- Down to its heads a validator is finite. -/
theorem acc_stays_of_heads {v : Validator}
    (h : ∀ e, v.Heads e → Acc (fun w v => Stays v w) (.deferred e)) :
    Acc (fun w v => Stays v w) v := by
  induction v using Validator.induction with
  | union variants ih =>
      refine Acc.intro _ fun w hw => ?_
      cases hw with
      | variant hv => exact ih w hv fun e he => h e (.union hv he)
  | optional inner ih =>
      refine Acc.intro _ fun w hw => ?_
      cases hw with
      | inner => exact ih fun e he => h e (.optional he)
  | shared number target ih =>
      refine Acc.intro _ fun w hw => ?_
      cases hw with
      | target => exact ih fun e he => h e (.shared he)
  | deferred d => exact h d (.deferred d)
  | _ => exact Acc.intro _ fun w hw => nomatch hw

/-- A deferred reference leads to heads with fewer marks, so the induction is on
their number. -/
theorem acc_stays_deferred (d : Deferred) : Acc (fun w v => Stays v w) (.deferred d) := by
  induction hcount : d.visited.nestedCount using Nat.strongRecOn generalizing d with
  | ind count ih =>
      subst hcount
      refine Acc.intro _ fun w hw => ?_
      cases hw with
      | resolved ht =>
          exact acc_stays_of_heads fun e he => ih _ (Deferred.marks_lt_of_heads ht he) e rfl

/-- No chain of validators that are asked about the same data goes on for ever. -/
theorem wellFounded_stays : WellFounded fun w v : Validator => Stays v w :=
  ⟨fun _ => acc_stays_of_heads fun e _ => acc_stays_deferred e⟩

/-- No chain of questions goes on for ever. The outer induction is on the amount
of data, the inner one on the validators that are asked about the same data. -/
theorem wellFounded_asks : WellFounded fun callee caller => Asks caller callee := by
  refine ⟨fun (v, data) => ?_⟩
  induction hheight : dataHeight data using Nat.strongRecOn generalizing v data with
  | ind height ihdata =>
      subst hheight
      induction v using wellFounded_stays.induction with
      | _ v ihstays =>
          refine Acc.intro _ fun (w, inside) hask => ?_
          rcases hask.stays_or_lt with ⟨hstay, rfl⟩ | hlt
          · exact ihstays w hstay
          · exact ihdata _ hlt w inside rfl

/-- What holds of a validator at a value if it holds of all that is asked about
values there, holds always. -/
theorem ask_induction {motive : Validator → Json → Prop}
    (step : ∀ v x, (∀ w y, Asks (v, some x) (w, some y) → motive w y) → motive v x)
    (v : Validator) (x : Json) : motive v x := by
  have hall : ∀ call : Validator × Data, ∀ y, call.2 = some y → motive call.1 y := by
    intro call
    induction call using wellFounded_asks.induction with
    | _ call ih =>
        obtain ⟨v, data⟩ := call
        intro x h
        subst h
        exact step v x fun w y hask => ih (w, some y) hask y rfl
  exact hall (v, some x) x rfl

-- ========================================================= one solution

section

/-! To pass questions on without a guard determines the answers. The induction is
on what is asked, so it is here that no question may lead anywhere else. -/

variable {absent absent' : Deferred → StateM Unit Bool}
variable {parse parse' : Deferred → Json → Location → StateM Unit Parsed}
variable {variant variant' : Deferred → Json → StateM Unit (Option Nat)}
variable (h : Deferred.Unguarded absent parse variant)
variable (h' : Deferred.Unguarded absent' parse' variant')

include h h'

theorem absentWith_unique (v : Validator) : absentWith absent v = absentWith absent' v := by
  induction v using wellFounded_stays.induction with
  | _ v ih =>
      cases v with
      | union variants =>
          rw [absentWith, absentWith]
          exact someAbsentWith_congr fun v hv => ih v (.variant hv)
      | shared number target =>
          rw [absentWith, absentWith]
          exact ih target (.target number target)
      | deferred d =>
          rw [absentWith, absentWith, h.absent_eq, h'.absent_eq]
          cases ht : d.target with
          | ok t => exact ih t (.resolved ht)
          | error reason => rfl
      | _ => rfl

theorem absent_unique : absent = absent' := by
  funext d
  exact absentWith_unique h h' (.deferred d)

theorem parseWith_unique (v : Validator) (value : Json) : ∀ location,
    parseWith absent parse v value location = parseWith absent' parse' v value location := by
  have habsent : absent = absent' := absent_unique h h'
  subst habsent
  induction v, value using ask_induction with
  | step v value ih =>
      intro location
      cases v with
      | array items bounds =>
          cases value with
          | array values =>
              have hitems : ∀ x ∈ values, ∀ place,
                  parseWith absent parse items x place = parseWith absent parse' items x place :=
                fun x hx => ih items x (.item hx)
              rw [parseWith, parseWith, parseItems_congr hitems]
          | _ => rfl
      | object properties additional =>
          cases value with
          | object members =>
              have hdeclared : parseProperties absent parse properties members location
                  = parseProperties absent parse' properties members location :=
                parseProperties_congr fun p hp x hx => ih p.validator x (.member hp hx)
              have hothers : ∀ others, (∀ m ∈ others, m ∈ members) →
                  parseOthers absent parse additional others location
                    = parseOthers absent parse' additional others location := by
                intro others hothers
                cases additional with
                | ignore => rfl
                | reject => rfl
                | schema catchAll =>
                    exact parseMembers_congr fun m hm => ih catchAll m.2 (.other (hothers m hm))
              rw [parseWith, parseWith, hdeclared]
              simp only [hothers _ fun m hm => (List.mem_filter.mp hm).1]
          | _ => rfl
      | union variants =>
          rw [parseWith, parseWith]
          exact parseVariants_congr (fun v hv => ih v value (.stays (.variant hv) _) location) 0 []
      | optional inner =>
          have hinner : parseWith absent parse inner value location
              = parseWith absent parse' inner value location :=
            ih inner value (.stays (.inner inner) _) location
          cases value with
          | null => rfl
          | _ => exact hinner
      | shared number target =>
          rw [parseWith, parseWith]
          exact ih target value (.stays (.target number target) _) location
      | deferred d =>
          rw [parseWith, parseWith, h.parse_eq, h'.parse_eq]
          cases ht : d.target with
          | ok t => exact ih t value (.stays (.resolved ht) _) location
          | error reason => rfl
      | _ => rfl

theorem parse_unique : parse = parse' := by
  funext d value location
  exact parseWith_unique h h' (.deferred d) value location

theorem variantWith_unique (v : Validator) (value : Json) :
    variantWith (fun v x => parseWith absent parse v x []) variant v value
      = variantWith (fun v x => parseWith absent parse v x []) variant' v value := by
  have habsent : absent = absent' := absent_unique h h'
  have hparse : parse = parse' := parse_unique h h'
  subst habsent hparse
  induction v using wellFounded_stays.induction with
  | _ v ih =>
      cases v with
      | optional inner =>
          cases value with
          | null => rfl
          | _ => exact ih inner (.inner inner)
      | shared number target =>
          rw [variantWith, variantWith]
          exact ih target (.target number target)
      | deferred d =>
          rw [variantWith, variantWith, h.variant_eq, h'.variant_eq]
          cases ht : d.target with
          | ok t => exact ih t (.resolved ht)
          | error reason => rfl
      | _ => rfl

theorem variant_unique : variant = variant' := by
  funext d value
  exact variantWith_unique h h' (.deferred d) value

end

-- ============================================================ the bound

/-- The deferred reference that the validator is, if it is one. -/
def deferred? : Validator → Option Deferred
  | .deferred d => some d
  | _ => none

/-- A chain of validators that are asked about the same data, with the deferred
references that are resolved on the way, the last node included. -/
inductive Passes : Validator → List Deferred → Validator → Prop
  | here (v : Validator) : Passes v v.deferred?.toList v
  | step {v w u : Validator} {ds : List Deferred} (h : Stays v w) (rest : Passes w ds u) :
      Passes v (v.deferred?.toList ++ ds) u

/-- The marks of the first are all among those of the second, which has another. -/
def FewerMarks (e d : Deferred) : Prop :=
  (∀ q, e.visited.isNested q = true → d.visited.isNested q = true) ∧
    ∃ q, d.visited.isNested q = true ∧ e.visited.isNested q = false

/-- The first reference on a chain is at the head of its start. -/
theorem heads_of_passes {v u : Validator} {d : Deferred} {ds : List Deferred}
    (h : Passes v (d :: ds) u) : v.Heads d := by
  generalize hall : d :: ds = all at h
  induction h with
  | here v =>
      cases v with
      | deferred e =>
          cases hall
          exact .deferred d
      | _ => cases hall
  | step hstay _ ih =>
      cases hstay with
      | variant hv => exact .union hv (ih hall)
      | inner => exact .optional (ih hall)
      | target => exact .shared (ih hall)
      | resolved =>
          cases hall
          exact .deferred d

/-- To come to another reference the chain goes through what the first stands
for. -/
theorem passes_of_cons_cons {v u : Validator} {d e : Deferred} {ds : List Deferred}
    (h : Passes v (d :: e :: ds) u) : ∃ t, d.target = .ok t ∧ Passes t (e :: ds) u := by
  generalize hall : d :: e :: ds = all at h
  induction h with
  | here v => cases v <;> cases hall
  | step hstay hrest ih =>
      cases hstay with
      | variant => exact ih hall
      | inner => exact ih hall
      | target => exact ih hall
      | resolved ht =>
          cases hall
          exact ⟨_, ht, hrest⟩

theorem fewerMarks_of_heads {d e : Deferred} {t : Validator} (ht : d.target = .ok t)
    (he : t.Heads e) : FewerMarks e d := by
  have hmarks : ∀ q, e.visited.isNested q = true → q ≠ d.reference ∧ d.visited.isNested q = true :=
    fun q => Deferred.isNested_of_heads ht he
  refine ⟨fun q hq => (hmarks q hq).2, d.reference, d.nested, ?_⟩
  exact Bool.eq_false_iff.mpr fun hq => (hmarks _ hq).1 rfl

/-- From one reference to the next there are fewer marks. -/
theorem isChain_of_passes {ds : List Deferred} : ∀ {v u : Validator}, Passes v ds u →
    ds.IsChain fun d e => FewerMarks e d := by
  induction ds with
  | nil => exact fun _ => .nil
  | cons d rest ih =>
      intro v u h
      cases rest with
      | nil => exact .singleton d
      | cons e rest =>
          obtain ⟨t, ht, hrest⟩ := passes_of_cons_cons h
          exact .cons_cons (fewerMarks_of_heads ht (heads_of_passes hrest)) (ih hrest)

/-- So there are no more references than the first one has marks. -/
theorem length_le_of_passes {ds : List Deferred} : ∀ {v u : Validator} {d : Deferred},
    Passes v (d :: ds) u → (d :: ds).length ≤ d.visited.nestedCount := by
  induction ds with
  | nil =>
      intro v u d _
      exact Nat.lt_of_le_of_lt (Nat.zero_le _) (VisitedPath.nestedCount_enter_lt d.nested)
  | cons e rest ih =>
      intro v u d h
      obtain ⟨t, ht, hrest⟩ := passes_of_cons_cons h
      calc (d :: e :: rest).length
          = (e :: rest).length + 1 := List.length_cons
        _ ≤ e.visited.nestedCount + 1 := Nat.succ_le_succ (ih hrest)
        _ ≤ d.visited.nestedCount := Deferred.marks_lt_of_heads ht (heads_of_passes hrest)

/-- From a compiled validator on, no more references are resolved at the same data
than were marked when it was compiled, and from any reference on no more than
that reference has marks, with fewer marks each time. So no chain of questions
goes on for ever, and the answers are the only ones there are when every
question about a reference is passed on without a guard. -/
theorem resolution_terminates {schema : Json} {pool : Definitions} {visited : VisitedPath}
    {options : CompileOptions} {v : Validator}
    (h : (compileNode schema pool visited options).result = .ok v) :
    (∀ ds u, Passes v ds u → ds.length ≤ visited.nestedCount) ∧
      (∀ w d ds u, Passes w (d :: ds) u → (d :: ds).length ≤ d.visited.nestedCount ∧
        (d :: ds).IsChain fun d e => FewerMarks e d) ∧
      (WellFounded fun callee caller => Asks caller callee) ∧
      ∀ absent parse variant, Deferred.Unguarded absent parse variant ↔
        absent = Deferred.absent Deferred.direct ∧ parse = Deferred.parse Deferred.direct ∧
          variant = Deferred.variant Deferred.direct := by
  refine ⟨fun ds u hpasses => ?_, fun w d ds u hpasses => ?_, wellFounded_asks,
    fun absent parse variant => ⟨fun hunguarded => ?_, fun heq => ?_⟩⟩
  · cases ds with
    | nil => exact Nat.zero_le _
    | cons d ds =>
        have henters := enters_of_expands (expands_of_compileNode h) (heads_of_passes hpasses)
        exact Nat.le_trans (length_le_of_passes hpasses) henters.nestedCount_le
  · exact ⟨length_le_of_passes hpasses, isChain_of_passes hpasses⟩
  · have hdirect := Deferred.unguarded_direct
    exact ⟨absent_unique hunguarded hdirect, parse_unique hunguarded hdirect,
      variant_unique hunguarded hdirect⟩
  · obtain ⟨rfl, rfl, rfl⟩ := heq
    exact Deferred.unguarded_direct

/-- A tree is nothing or a list of trees. -/
def treePool : Definitions :=
  ⟨[("tree", .object [("anyOf", .array
      [.object [("type", .string "null")], .object [("$ref", .string "list")]])]),
    ("list", .object [("type", .string "array"), ("items", .object [("$ref", .string "tree")])])]⟩

/-- A branch inside an item of a list that is a tree. -/
def insideTree : VisitedPath := ((VisitedPath.empty.enter "tree").enter "list").descend

theorem resolution_terminates_inside_tree :
    ∃ v, (compileNode (.object [("$ref", .string "tree")]) treePool insideTree {}).result = .ok v ∧
      ∀ ds u, Passes v ds u → ds.length ≤ 2 := by
  obtain ⟨v, h⟩ : ∃ v, (compileNode (.object [("$ref", .string "tree")]) treePool insideTree
      {}).result = .ok v := ⟨_, rfl⟩
  have hmarks : insideTree.nestedCount = 2 := by decide
  refine ⟨v, h, fun ds u hpasses => ?_⟩
  rw [← hmarks]
  exact (resolution_terminates h).1 ds u hpasses

end Validator

end Conformance
