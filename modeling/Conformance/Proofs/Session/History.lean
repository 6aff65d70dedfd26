/-
A validator's answers do not depend on what it was asked before.

In a session a deferred reference is compiled once and kept, so after different
histories a validator has learnt different things. But all that is ever kept is
what compiling the reference comes to: a session is faithful when each reference
it has resolved stands in it for that. `Mirrors` relates a walk that keeps what
it learns to the same walk that keeps nothing: from a faithful session the two
come to the same answer, and the session stays faithful and forgets no
reference. It is kept by sequencing, which carries it through the whole walk,
and it meets what is kept in one place only, where a reference is looked up.

So each question is answered as if it were the only one, and the rest is an
induction on the list of questions.
-/
import Conformance.Proofs.Validation.Equations

namespace Conformance

namespace Session

-- ============================================================ questions

/-- Parses a value. -/
def parse (v : Validator) (value : Json) : StateM Session (Except Failure Json) := do
  match ← v.parseBy lookup value [] with
  | .ok parsed => return .ok parsed
  | .error issues => return .error ⟨issues⟩

/-- What a validator can be asked. -/
inductive Question where
  | parse (value : Json)
  | parseOptional (data : Data)
  | check (value : Json)
  | matchedVariant (value : Json)
  | acceptsAbsent

/-- What a validator can answer: a conforming form or issues, a yes or no, or the
place of an alternative. -/
inductive Answer where
  | parsed (result : Except Failure Json)
  | parsedOptional (result : Except Failure Data)
  | verdict (holds : Bool)
  | variant (place : Option Nat)

/-- Asks a validator in a session. -/
def ask (v : Validator) : Question → StateM Session Answer
  | .parse value => return .parsed (← parse v value)
  | .parseOptional data => return .parsedOptional (← parseOptional v data)
  | .check value => return .verdict (← check v value)
  | .matchedVariant value => return .variant (← matchedVariant v value)
  | .acceptsAbsent => return .verdict (← acceptsAbsent v)

/-- Asks one question after the other. -/
def askAll (v : Validator) : List Question → StateM Session (List Answer)
  | [] => return []
  | q :: rest => do
    let a ← ask v q
    let answers ← askAll v rest
    return a :: answers

end Session

/-- The answer of a validator that keeps nothing. -/
def Validator.answerTo (v : Validator) : Session.Question → Session.Answer
  | .parse value => .parsed (v.parse value)
  | .parseOptional data => .parsedOptional (v.parseOptional data)
  | .check value => .verdict (v.check value)
  | .matchedVariant value => .variant (v.matchedVariant value)
  | .acceptsAbsent => .verdict v.acceptsAbsent

namespace Session

-- ======================================================== the invariant

/-- Each reference that has been resolved stands for what it compiles to. -/
def Faithful (session : Session) : Prop := ∀ e ∈ session.resolved, e.2 = e.1.target

/-- Nothing has been kept at first. -/
theorem faithful_init : Faithful {} := fun _ h => absurd h List.not_mem_nil

/-- What the first session has resolved, the second has too. -/
def Recalls (session later : Session) : Prop :=
  ∀ d, session.isResolved d = true → later.isResolved d = true

/-- Sessions forget nothing, so recalling goes along any history. -/
theorem Recalls.refl (session : Session) : session.Recalls session := fun _ h => h

theorem Recalls.trans {session later last : Session} (h : session.Recalls later)
    (h' : later.Recalls last) : session.Recalls last := fun d hd => h' d (h d hd)

/-- From a faithful session, a step answers as its counterpart that keeps nothing,
leaves a faithful session, and forgets no reference. -/
def Mirrors {α : Type} (step : StateM Session α) (plain : StateM Unit α) : Prop :=
  ∀ session : Session, session.Faithful →
    (step.run session).1 = answer plain ∧ (step.run session).2.Faithful ∧
      session.Recalls (step.run session).2

section

variable {α β : Type}

/-- An answer that is at hand leaves the session as it is. -/
theorem mirrors_pure (a : α) : Mirrors (pure a) (pure a) :=
  fun session h => ⟨rfl, h, .refl session⟩

/-- After a step only what follows its answer matters. -/
theorem mirrors_bind_answer {step : StateM Session α} {plain : StateM Unit α}
    {f : α → StateM Session β} {last : StateM Unit β} (hstep : Mirrors step plain)
    (hnext : Mirrors (f (answer plain)) last) : Mirrors (step >>= f) last := by
  intro session hfaithful
  obtain ⟨hanswer, hfaithful', hrecalls⟩ := hstep session hfaithful
  obtain ⟨hlast, hfaithful'', hrecalls'⟩ := hnext (step.run session).2 hfaithful'
  have hrun : (step >>= f).run session = (f (answer plain)).run (step.run session).2 := by
    rw [← hanswer]
    rfl
  rw [hrun]
  exact ⟨hlast, hfaithful'', hrecalls.trans hrecalls'⟩

/-- Steps that mirror others may be sequenced. -/
theorem mirrors_bind {step : StateM Session α} {plain : StateM Unit α}
    {f : α → StateM Session β} {g : α → StateM Unit β} (hstep : Mirrors step plain)
    (hnext : ∀ a, Mirrors (f a) (g a)) : Mirrors (step >>= f) (plain >>= g) := by
  have hlast : Mirrors (f (answer plain)) (plain >>= g) := hnext (answer plain)
  exact mirrors_bind_answer hstep hlast

end

/-- What has been kept is given again, and the session is unchanged. -/
theorem run_lookup_of_some {session : Session} {d : Deferred} {known : Except String Validator}
    (h : session.resolved.lookup d = some known) : (lookup d).run session = (known, session) := by
  show lookup d session = _
  unfold lookup
  rw [h]

/-- What has not been kept is compiled and put in front. -/
theorem run_lookup_of_none {session : Session} {d : Deferred}
    (h : session.resolved.lookup d = none) :
    (lookup d).run session = (d.target,
      { resolved := (d, d.target) :: session.resolved
        warnings := session.warnings ++ d.compile.warnings }) := by
  show lookup d session = _
  unfold lookup
  rw [h]
  rfl

/-- A reference that was resolved before stands for what it compiles to, and one
that was not is compiled, and kept. -/
theorem mirrors_lookup (d : Deferred) : Mirrors (lookup d) (Deferred.direct d) := by
  intro session hfaithful
  cases hfound : session.resolved.lookup d with
  | some known =>
      rw [run_lookup_of_some hfound]
      obtain ⟨before, after, heq, -⟩ := List.lookup_eq_some_iff.mp hfound
      have hmem : (d, known) ∈ session.resolved := by
        rw [heq]
        exact List.mem_append_right _ (List.mem_cons_self ..)
      exact ⟨hfaithful _ hmem, hfaithful, .refl session⟩
  | none =>
      rw [run_lookup_of_none hfound]
      -- what has been kept is still there, and the new entry is right
      refine ⟨rfl, ?_, ?_⟩
      · intro e he
        rcases List.mem_cons.mp he with rfl | he
        · rfl
        · exact hfaithful e he
      · intro e he
        show ((d, d.target) :: session.resolved).any (·.1 == e) = true
        rw [List.any_cons, Bool.or_eq_true]
        exact .inr he

-- ============================================================== the walk

section

variable {absent : Deferred → StateM Session Bool} {absent' : Deferred → StateM Unit Bool}
variable (habsent : ∀ d, Mirrors (absent d) (absent' d))

include habsent

/-- The walks ask nothing of the state but through deferred references. So each of them
mirrors the walk without a state if the answers for these references do. -/
theorem mirrors_absentWith (v : Validator) :
    Mirrors (v.absentWith absent) (v.absentWith absent') := by
  induction v using Validator.induction with
  | any => exact mirrors_pure true
  | optional inner => exact mirrors_pure true
  | union variants ih =>
      rw [Validator.absentWith, Validator.absentWith]
      -- the alternatives are asked in turn, until one accepts
      induction variants with
      | nil => exact mirrors_pure false
      | cons v rest ihrest =>
          rw [Validator.someAbsentWith, Validator.someAbsentWith]
          refine mirrors_bind (ih v (List.mem_cons_self ..)) ?_
          intro accepted
          cases accepted with
          | true => exact mirrors_pure true
          | false => exact ihrest fun w hw => ih w (List.mem_cons_of_mem _ hw)
  | shared number target ih =>
      rw [Validator.absentWith, Validator.absentWith]
      exact ih
  | deferred d =>
      rw [Validator.absentWith, Validator.absentWith]
      exact habsent d
  | _ => exact mirrors_pure false

section

variable {parse : Json → Location → StateM Session Parsed}
variable {parse' : Json → Location → StateM Unit Parsed}
variable (hparse : ∀ value location, Mirrors (parse value location) (parse' value location))

include hparse

omit habsent

/-- Items are walked one after the other, and each may leave something behind for the
next. -/
theorem mirrors_parseItems (location : Location) (values : List Json) (i : Nat) :
    Mirrors (Validator.parseItems parse location i values)
      (Validator.parseItems parse' location i values) := by
  induction values generalizing i with
  | nil => exact mirrors_pure _
  | cons x rest ih =>
      rw [Validator.parseItems, Validator.parseItems]
      refine mirrors_bind (hparse x _) ?_
      intro found
      refine mirrors_bind (ih (i + 1)) ?_
      intro others
      cases found with
      | ok y => exact mirrors_pure _
      | error issues => exact mirrors_pure _

/-- So are members. -/
theorem mirrors_parseMembers (location : Location) (members : List (String × Json)) :
    Mirrors (Validator.parseMembers parse location members)
      (Validator.parseMembers parse' location members) := by
  induction members with
  | nil => exact mirrors_pure _
  | cons m rest ih =>
      rw [Validator.parseMembers, Validator.parseMembers]
      refine mirrors_bind (hparse m.2 _) ?_
      intro found
      refine mirrors_bind ih ?_
      intro others
      cases found with
      | ok y => exact mirrors_pure _
      | error issues => exact mirrors_pure _

end

section

variable {enter : Deferred → Json → Location → StateM Session Parsed}
variable {enter' : Deferred → Json → Location → StateM Unit Parsed}

/-- Properties are walked by name, and where a member is missing the question is about
absence. -/
theorem mirrors_parseProperties {properties : List (Property Validator)}
    (h : ∀ p ∈ properties, ∀ value location,
      Mirrors (p.validator.parseWith absent enter value location)
        (p.validator.parseWith absent' enter' value location))
    (members : Members) (location : Location) :
    Mirrors (Validator.parseProperties absent enter properties members location)
      (Validator.parseProperties absent' enter' properties members location) := by
  induction properties with
  | nil => exact mirrors_pure _
  | cons p rest ih =>
      obtain ⟨name, required, v⟩ := p
      have hrest := ih fun p hp => h p (List.mem_cons_of_mem _ hp)
      -- whatever came of this property, the others follow
      have hown : ∀ own : List Issue × List (String × Json),
          Mirrors
            (pure own >>= fun own => do
              let others ← Validator.parseProperties absent enter rest members location
              return (own.1 ++ others.1, own.2 ++ others.2))
            (pure own >>= fun own => do
              let others ← Validator.parseProperties absent' enter' rest members location
              return (own.1 ++ others.1, own.2 ++ others.2)) :=
        fun own => mirrors_bind (mirrors_pure own) fun _ =>
          mirrors_bind hrest fun _ => mirrors_pure _
      rw [Validator.parseProperties, Validator.parseProperties]
      cases members.get? name with
      | some x =>
          refine mirrors_bind (h ⟨name, required, v⟩ (List.mem_cons_self ..) x _) ?_
          intro found
          cases found with
          | ok y => exact hown ([], [(name, y)])
          | error issues => exact hown (issues, [])
      | none =>
          cases required with
          | false => exact hown ([], [])
          | true =>
              refine mirrors_bind (mirrors_absentWith habsent v) ?_
              intro accepted
              cases accepted with
              | true => exact hown ([], [])
              | false => exact hown ([Validator.missingMember location name], [])

omit habsent in
/-- Alternatives are tried until one accepts the value. How many are tried does not depend
on the state either. -/
theorem mirrors_parseVariants {variants : List Validator}
    (h : ∀ v ∈ variants, ∀ value location, Mirrors (v.parseWith absent enter value location)
      (v.parseWith absent' enter' value location))
    (tried : Nat) (reasons : List String) (value : Json) (location : Location) :
    Mirrors (Validator.parseVariants absent enter variants tried reasons value location)
      (Validator.parseVariants absent' enter' variants tried reasons value location) := by
  induction variants generalizing tried reasons with
  | nil => exact mirrors_pure _
  | cons v rest ih =>
      rw [Validator.parseVariants, Validator.parseVariants]
      refine mirrors_bind (h v (List.mem_cons_self ..) value location) ?_
      intro found
      cases found with
      | ok y => exact mirrors_pure _
      | error issues => exact ih (fun w hw => h w (List.mem_cons_of_mem _ hw)) _ _

variable (henter : ∀ d value location,
  Mirrors (enter d value location) (enter' d value location))

include henter

/-- What a walk makes of a value is mirrored, node by node. -/
theorem mirrors_parseWith (v : Validator) : ∀ value location,
    Mirrors (v.parseWith absent enter value location)
      (v.parseWith absent' enter' value location) := by
  induction v using Validator.part_induction with
  | step v ih =>
      intro value location
      cases v.faces value with
      | any | null | boolean | string | number | optionalNull => exact mirrors_pure _
      | literal | stringEnum =>
          rw [Validator.parseWith, Validator.parseWith]
          split
          · exact mirrors_pure _
          · exact mirrors_pure _
      | array items bounds values =>
          rw [Validator.parseWith, Validator.parseWith]
          exact mirrors_bind (mirrors_parseItems (ih items .items) location values 0) fun _ =>
            mirrors_pure _
      | object properties additional members =>
          rw [Validator.parseWith, Validator.parseWith]
          have hproperties := mirrors_parseProperties habsent
            (fun p hp => ih p.validator (.property hp)) members location
          refine mirrors_bind hproperties ?_
          intro declared
          -- which members are left over has been found without the state
          have hothers : ∀ others : Members,
              Mirrors (Validator.parseOthers absent enter additional others location)
                (Validator.parseOthers absent' enter' additional others location) := by
            intro others
            cases additional with
            | ignore => exact mirrors_pure _
            | reject => exact mirrors_pure _
            | schema catchAll => exact mirrors_parseMembers (ih catchAll .other) location others
          exact mirrors_bind (hothers _) fun _ => mirrors_pure _
      | union variants =>
          rw [Validator.parseWith, Validator.parseWith]
          exact mirrors_parseVariants (fun w hw => ih w (.variant hw)) 0 [] value location
      | optional inner hvalue =>
          rw [Validator.parseWith_optional_of_ne hvalue, Validator.parseWith_optional_of_ne hvalue]
          exact ih inner .inner value location
      | deferred d =>
          rw [Validator.parseWith, Validator.parseWith]
          exact henter d value location
      | shared number target =>
          rw [Validator.parseWith, Validator.parseWith]
          exact ih target .target value location
      | mistyped expected h =>
          rw [h.parseWith_eq, h.parseWith_eq]
          exact mirrors_pure _

end

end

/-- To look for the first alternative is to parse until one succeeds. -/
theorem mirrors_firstVariant {parse : Validator → Json → StateM Session Parsed}
    {parse' : Validator → Json → StateM Unit Parsed}
    (hparse : ∀ v value, Mirrors (parse v value) (parse' v value)) (value : Json)
    (variants : List Validator) (place : Nat) :
    Mirrors (Validator.firstVariant parse value variants place)
      (Validator.firstVariant parse' value variants place) := by
  induction variants generalizing place with
  | nil => exact mirrors_pure none
  | cons v rest ih =>
      rw [Validator.firstVariant, Validator.firstVariant]
      refine mirrors_bind (hparse v value) ?_
      intro found
      cases found with
      | ok y => exact mirrors_pure (some place)
      | error issues => exact ih (place + 1)

/-- The question for the alternative is passed through wrappers, where it may meet a
deferred reference. -/
theorem mirrors_variantWith {parse : Validator → Json → StateM Session Parsed}
    {parse' : Validator → Json → StateM Unit Parsed}
    {enter : Deferred → Json → StateM Session (Option Nat)}
    {enter' : Deferred → Json → StateM Unit (Option Nat)}
    (hparse : ∀ v value, Mirrors (parse v value) (parse' v value))
    (henter : ∀ d value, Mirrors (enter d value) (enter' d value)) (v : Validator) :
    ∀ value, Mirrors (v.variantWith parse enter value) (v.variantWith parse' enter' value) := by
  induction v using Validator.induction with
  | union variants =>
      intro value
      rw [Validator.variantWith, Validator.variantWith]
      exact mirrors_firstVariant hparse value variants 0
  | optional inner ih =>
      intro value
      cases value with
      | null => exact mirrors_pure _
      | _ => exact ih _
  | shared number target ih =>
      intro value
      rw [Validator.variantWith, Validator.variantWith]
      exact ih value
  | deferred d =>
      intro value
      rw [Validator.variantWith, Validator.variantWith]
      exact henter d value
  | _ => exact fun _ => mirrors_pure _

-- =================================================== deferred references

/-- The induction is on the marks of the reference, as the walk's recursion is. -/
theorem mirrors_absent (d : Deferred) :
    Mirrors (Deferred.absent lookup d) (Deferred.absent Deferred.direct d) := by
  induction hcount : d.visited.nestedCount using Nat.strongRecOn generalizing d with
  | ind count ih =>
      subst hcount
      rw [Deferred.absent, Deferred.absent]
      refine mirrors_bind (mirrors_lookup d) ?_
      intro target
      cases target with
      | error reason => exact mirrors_pure _
      | ok t =>
          refine mirrors_absentWith (fun e => ?_) t
          split
          · next hlt => exact ih _ hlt e rfl
          · exact mirrors_pure _

/-- The induction is on the height of the value and the marks of the reference. -/
theorem mirrors_enter (d : Deferred) (value : Json) (location : Location) :
    Mirrors (Deferred.parse lookup d value location)
      (Deferred.parse Deferred.direct d value location) := by
  rw [Deferred.parse, Deferred.parse]
  refine mirrors_bind (mirrors_lookup d) ?_
  intro target
  cases target with
  | error reason => exact mirrors_pure _
  | ok t =>
      refine mirrors_parseWith mirrors_absent (fun e inner place => ?_) t value location
      split
      · next hless => exact mirrors_enter e inner place
      · exact mirrors_pure _
termination_by (value.height, d.visited.nestedCount)
decreasing_by
  rename_i hless
  rcases hless with hlt | ⟨heq, hlt⟩
  · exact Prod.Lex.left _ _ hlt
  · rw [heq]
    exact Prod.Lex.right _ hlt

/-- With its references entered like this, a validator makes the same of a value in a
session. -/
theorem mirrors_parseBy (v : Validator) (value : Json) (location : Location) :
    Mirrors (v.parseBy lookup value location) (v.parseBy Deferred.direct value location) :=
  mirrors_parseWith mirrors_absent mirrors_enter v value location

/-- So does a reference that is asked for the alternative of its target. -/
theorem mirrors_variant (d : Deferred) (value : Json) :
    Mirrors (Deferred.variant lookup d value) (Deferred.variant Deferred.direct d value) := by
  induction hcount : d.visited.nestedCount using Nat.strongRecOn generalizing d value with
  | ind count ih =>
      subst hcount
      rw [Deferred.variant, Deferred.variant]
      refine mirrors_bind (mirrors_lookup d) ?_
      intro target
      cases target with
      | error reason => exact mirrors_pure _
      | ok t =>
          refine mirrors_variantWith (fun v x => mirrors_parseBy v x []) (fun e inner => ?_) t value
          split
          · next hlt => exact ih _ hlt e inner rfl
          · exact mirrors_pure _

-- ============================================================== sessions

/-- A question is answered as if nothing had been asked before. -/
theorem mirrors_ask (v : Validator) (q : Question) : Mirrors (ask v q) (pure (v.answerTo q)) := by
  cases q with
  | parse value =>
      -- the answer is wrapped up as a failure or a value
      have hparse : Mirrors (parse v value) (pure (v.parse value)) := by
        refine mirrors_bind_answer (mirrors_parseBy v value []) ?_
        have hparsed : answer (v.parseBy Deferred.direct value []) = v.parseAt value [] := rfl
        rw [hparsed, Validator.parse_eq]
        cases v.parseAt value [] with
        | ok parsed => exact mirrors_pure _
        | error issues => exact mirrors_pure _
      exact mirrors_bind hparse fun _ => mirrors_pure _
  | parseOptional data =>
      have hparse : Mirrors (parseOptional v data) (v.parseOptionalBy Deferred.direct data) := by
        cases data with
        | some value =>
            refine mirrors_bind (mirrors_parseBy v value []) ?_
            intro found
            cases found with
            | ok parsed => exact mirrors_pure _
            | error issues => exact mirrors_pure _
        | none =>
            refine mirrors_bind (mirrors_absentWith mirrors_absent v) ?_
            intro accepted
            cases accepted with
            | true => exact mirrors_pure _
            | false => exact mirrors_pure _
      exact mirrors_bind hparse fun _ => mirrors_pure _
  | check value =>
      have hverdict : Mirrors (check v value) (pure (v.check value)) := by
        rw [Validator.check_eq]
        exact mirrors_bind (mirrors_parseBy v value []) fun _ => mirrors_pure _
      exact mirrors_bind hverdict fun _ => mirrors_pure _
  | matchedVariant value =>
      have hvariant : Mirrors (matchedVariant v value) (v.variantBy Deferred.direct value) :=
        mirrors_variantWith (fun v x => mirrors_parseBy v x []) mirrors_variant v value
      exact mirrors_bind hvariant fun _ => mirrors_pure _
  | acceptsAbsent =>
      exact mirrors_bind (mirrors_absentWith mirrors_absent v) fun _ => mirrors_pure _

/-- So is a list of questions. -/
theorem mirrors_askAll (v : Validator) (questions : List Question) :
    Mirrors (askAll v questions) (pure (questions.map v.answerTo)) := by
  induction questions with
  | nil => exact mirrors_pure []
  | cons q rest ih =>
      refine mirrors_bind_answer (mirrors_ask v q) ?_
      exact mirrors_bind ih fun _ => mirrors_pure _

/-- To ask some questions and then others is to ask them all. -/
theorem run_askAll_append (v : Validator) (questions others : List Question) (session : Session) :
    ((askAll v (questions ++ others)).run session).2
      = ((askAll v others).run ((askAll v questions).run session).2).2 := by
  induction questions generalizing session with
  | nil => rfl
  | cons q rest ih => exact ih ((ask v q).run session).2

/-- A validator's answers do not depend on its history. A validator that is
compiled afresh is the same validator with nothing resolved. Whatever was asked
before, and whatever references were compiled on the way and kept, each question
is answered as by the validator that is compiled afresh and asked nothing else.
And what has been resolved once stays resolved. -/
theorem history_unobservable (v : Validator) (questions : List Question) :
    ((askAll v questions).run {}).1 = questions.map (fun q => ((ask v q).run {}).1) ∧
      ∀ before after d, questions = before ++ after →
        ((askAll v before).run {}).2.isResolved d = true →
        ((askAll v questions).run {}).2.isResolved d = true := by
  constructor
  · have halone : ∀ q, ((ask v q).run {}).1 = v.answerTo q :=
      fun q => (mirrors_ask v q {} faithful_init).1
    simp only [halone]
    exact (mirrors_askAll v questions {} faithful_init).1
  · intro before after d heq hresolved
    obtain ⟨-, hfaithful, -⟩ := mirrors_askAll v before {} faithful_init
    obtain ⟨-, -, hrecalls⟩ := mirrors_askAll v after _ hfaithful
    rw [heq, run_askAll_append]
    exact hrecalls d hresolved

end Session

end Conformance
