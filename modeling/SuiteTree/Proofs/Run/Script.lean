import SuiteTree.Check
import SuiteTree.Proofs.Run.Accounts
import SuiteTree.Proofs.Run.Schedule

/-!
# Scripts

A script is a hook without choices: checks on fixed values, reports of failures, and calls of the
environment whose answers are not looked at. Which failures it reports is known beforehand. If the
run goes on after failures, they are those up to the first requirement that does not hold; if it
does not, they are those up to the first check that does not hold.
-/

namespace SuiteTree

/-- A call of the environment. -/
inductive AmbientCall
  | assign (key value : String)
  | lookup (key : String)
  | resetAttributes
  | drawStream
  | rewindStreams
  deriving Repr, DecidableEq

def AmbientCall.request : AmbientCall → Request
  | assign key value => .assign key value
  | lookup key => .lookup key
  | resetAttributes => .resetAttributes
  | drawStream => .drawStream
  | rewindStreams => .rewindStreams

/-- A step of a script. -/
inductive Move
  | check (c : Check)
  | report (failure : Failure)
  | ambient (call : AmbientCall)
  deriving Repr, DecidableEq

namespace Move

/-- Carry out the step. The value says whether the script goes on. -/
def conduct : Move → Program Bool
  | check c => c.conduct
  | report failure => (Program.request (.fail failure)).andGoOn
  | ambient call => (Program.request call.request).andGoOn

/-- The failure that the step reports. -/
def record? : Move → Option Failure
  | check c => if c.holds then none else some c.failure
  | report failure => some failure
  | ambient _ => none

/-- The step is a check that does not hold. -/
def misses : Move → Bool
  | check c => !c.holds
  | _ => false

/-- The step is a requirement that does not hold. -/
def breaks : Move → Bool
  | check c => !c.holds && c.required
  | _ => false

/-- The script ends with this step. -/
def ends (goesOn : Bool) (m : Move) : Bool :=
  if goesOn then m.breaks else m.misses

end Move

/-- The steps of a hook, in their order. -/
abbrev Script := List Move

/-- The elements up to the first one that satisfies `p`, which is included. -/
def upTo {α : Type} (p : α → Bool) : List α → List α
  | [] => []
  | a :: l => a :: if p a then [] else upTo p l

namespace Script

def program (script : Script) : Program Unit :=
  .steps (script.map Move.conduct)

/-- The failures that the script reports. -/
def records (script : Script) (goesOn : Bool) : List Failure :=
  (upTo (Move.ends goesOn) script).filterMap Move.record?

/-- The failures `short`, which the script reports if the run stops at failures, are compared with
the failures `full`, which it reports otherwise. -/
structure Shortens (script : Script) (full short : List Failure) : Prop where
  full_eq : full = (upTo Move.breaks script).filterMap Move.record?
  shorter : short <+: full
  whole : (∀ m ∈ script, m.misses = false) → short = full
  last : ∀ before c after, script = before ++ .check c :: after → c.holds = false →
    (∀ m ∈ before, m.misses = false) → short = before.filterMap Move.record? ++ [c.failure]

end Script

section Failures

variable {α : Type} {p q : α → Bool}

theorem upTo_eq_self {l : List α} (none : ∀ a ∈ l, p a = false) : upTo p l = l := by
  induction l with
  | nil => rfl
  | cons a l ih =>
      rw [upTo, none a List.mem_cons_self, if_neg Bool.false_ne_true,
        ih fun b mem => none b (List.mem_cons_of_mem _ mem)]

theorem upTo_append_of_none {before : List α} (none : ∀ a ∈ before, p a = false) (after : List α) :
    upTo p (before ++ after) = before ++ upTo p after := by
  induction before with
  | nil => rfl
  | cons a before ih =>
      rw [List.cons_append, upTo, none a List.mem_cons_self, if_neg Bool.false_ne_true,
        ih fun b mem => none b (List.mem_cons_of_mem _ mem), List.cons_append]

/-- Where more elements end the list, it ends earlier. -/
theorem upTo_of_weaker (weaker : ∀ a, q a = true → p a = true) (l : List α) :
    upTo p l <+: upTo q l := by
  induction l with
  | nil => exact List.prefix_refl _
  | cons a l ih =>
      rw [upTo, upTo, List.cons_prefix_cons]
      refine ⟨rfl, ?_⟩
      cases hp : p a with
      | true => exact List.nil_prefix
      | false =>
          have hq : ¬ q a = true := fun h => Bool.false_ne_true (hp.symm.trans (weaker a h))
          rw [if_neg Bool.false_ne_true, if_neg hq]
          exact ih

end Failures

namespace Move

/-- A requirement that does not hold is a check that does not hold. -/
theorem misses_of_breaks (m : Move) (broken : m.breaks = true) : m.misses = true := by
  cases m with
  | check c => exact (Bool.and_eq_true_iff.1 broken).1
  | _ => exact broken

/-- A check that does not hold has a record. -/
theorem record_ne_none_of_misses (m : Move) (missed : m.misses = true) : m.record? ≠ none := by
  cases m with
  | check c =>
      have fails : c.holds = false := by simpa [misses] using missed
      simp [record?, fails]
  | _ => cases missed

end Move

namespace Script

theorem records_cons (m : Move) (script : Script) (goesOn : Bool) :
    records (m :: script) goesOn =
      m.record?.toList ++ if m.ends goesOn then [] else script.records goesOn := by
  rw [records, upTo]
  cases record : m.record? with
  | none =>
      rw [List.filterMap_cons_none record]
      split <;> rfl
  | some failure =>
      rw [List.filterMap_cons_some record]
      split <;> rfl

theorem shortens (script : Script) :
    script.Shortens (script.records true) (script.records false) where
  full_eq := rfl
  shorter := (upTo_of_weaker Move.misses_of_breaks script).filterMap _
  whole none := by
    have stop : upTo Move.misses script = script := upTo_eq_self none
    have goOn : upTo Move.breaks script = script := by
      apply upTo_eq_self
      intro m mem
      rw [Bool.eq_false_iff]
      intro broken
      exact Bool.false_ne_true ((none m mem).symm.trans (m.misses_of_breaks broken))
    show (upTo Move.misses script).filterMap _ = (upTo Move.breaks script).filterMap _
    rw [stop, goOn]
  last before c after split misses none := by
    have ends : upTo Move.misses script = before ++ [.check c] := by
      rw [split, upTo_append_of_none none]
      simp [upTo, Move.misses, misses]
    show (upTo Move.misses script).filterMap _ = _
    simp [ends, Move.record?, misses]

/-- A script reports something in both ways of running it, or in neither. -/
theorem records_eq_nil_iff (script : Script) :
    script.records true = [] ↔ script.records false = [] := by
  constructor
  · intro none
    exact List.prefix_nil.1 (none ▸ script.shortens.shorter)
  · intro none
    induction script with
    | nil => rfl
    | cons m script ih =>
        rw [records_cons, List.append_eq_nil_iff] at none
        obtain ⟨unrecorded, rest⟩ := none
        have kept : m.misses = false := by
          rw [Bool.eq_false_iff]
          intro missed
          exact m.record_ne_none_of_misses missed (Option.toList_eq_nil_iff.1 unrecorded)
        have whole : m.breaks = false := by
          rw [Bool.eq_false_iff]
          intro broken
          exact Bool.false_ne_true (kept.symm.trans (m.misses_of_breaks broken))
        rw [show m.ends false = false from kept, if_neg Bool.false_ne_true] at rest
        rw [records_cons, unrecorded, show m.ends true = false from whole,
          if_neg Bool.false_ne_true, ih rest, List.append_nil]

end Script

section Emission

variable {options : Options} {n : NodeId} {s : State}

theorem Program.conduct_bind {α β : Type} (p : Program α) (f : α → Program β) :
    (p.bind f).conduct options n = (p.conduct options n >>= fun a => (f a).conduct options n) := by
  induction p with
  | pure a => rfl
  | ask request next ih =>
      rw [Program.ask_bind, Program.conduct, Program.conduct, bind_assoc]
      congr 1
      funext reply
      exact ih reply

/-- Reporting a failure ends the process exactly if the options say so. -/
theorem Request.emits_fail (failure : Failure) :
    ((Request.fail failure).answer options n).Emits s
      (fun _ es => es = [.answered n (.fail failure) ()] ∧ options.assertOnFailure = false)
      (fun how es => es = [] ∧ how = .aborted ∧ options.assertOnFailure = true) := by
  have emits : ((Request.fail failure).answer options n).Emits s _ _ := Request.emits_answer _
  unfold Run.Emits at emits ⊢
  cases abort : options.assertOnFailure with
  | true =>
      have halted : ∃ s', (Request.fail failure).answer options n s = .error .aborted s' := by
        simp only [Request.answer, Request.reply, abort, if_true]
        exact ⟨_, rfl⟩
      obtain ⟨s', result⟩ := halted
      rw [result] at emits ⊢
      obtain ⟨es, events, none, -⟩ := emits
      exact ⟨es, events, none, rfl, rfl⟩
  | false =>
      have answered : (Request.fail failure).answer options n s =
          .ok () ((s.reportFailure n failure).emit (.answered n (.fail failure) ())) := by
        simp only [Request.answer, Request.reply, abort]
        rfl
      rw [answered] at emits ⊢
      obtain ⟨es, ext, answer⟩ := emits
      exact ⟨es, ext, answer, rfl⟩

/-- A hook is told how the run deals with failures. -/
theorem Request.emits_options {H : Halt → List Event → Prop} :
    (Request.options.answer options n).Emits s
      (fun reply es => reply = options.policy ∧ es = [.answered n .options reply]) H := by
  have ext : s.Extends [.answered n .options options.policy]
      (s.emit (.answered n .options options.policy)) :=
    ⟨by simp [State.emit, World.emit], rfl, .of_eq rfl rfl⟩
  exact Run.Emits.of_ok rfl ext ⟨rfl, rfl⟩

/-- A call of the environment reports nothing and does not end the process. -/
theorem AmbientCall.emits (call : AmbientCall) :
    (call.request.answer options n).Emits s
      (fun _ es => (∀ e ∈ es, e.AnswerOf n) ∧ reports es = []) (fun _ _ => False) := by
  apply (Request.emits_answer call.request).mono
  · rintro reply es rfl
    refine ⟨by simp [Event.AnswerOf], ?_⟩
    cases call <;> rfl
  · rintro how es ⟨-, halts⟩
    cases call <;> exact halts

/-- A step of a script reports its record, and then says whether the script goes on. -/
theorem Move.emits (m : Move) :
    (m.conduct.conduct options n).Emits s
      (fun goOn es => (∀ e ∈ es, e.AnswerOf n) ∧ reports es = m.record?.toList.map (n, ·) ∧
        goOn = !m.ends options.continueOnFailure ∧
        (m.record? ≠ none → options.assertOnFailure = false))
      (fun how es => es = [] ∧ how = .aborted ∧ options.assertOnFailure = true ∧
        m.record? ≠ none) := by
  cases m with
  | check c =>
      cases holds : c.holds with
      | true =>
          rw [Move.conduct, Check.conduct, if_pos holds]
          refine Run.Emits.pure ⟨by simp, ?_, ?_, ?_⟩
          · simp [reports, Move.record?, holds]
          · cases options.continueOnFailure <;> simp [Move.ends, Move.breaks, Move.misses, holds]
          · simp [Move.record?, holds]
      | false =>
          have record : (Move.check c).record? = some c.failure := by simp [Move.record?, holds]
          rw [Move.conduct, Check.conduct, if_neg (by simp [holds]), record]
          apply Run.Emits.bind (Request.emits_fail c.failure)
          · rintro - es s' - ⟨rfl, stays⟩
            cases required : c.required with
            | true =>
                refine Run.Emits.pure ⟨by simp [Event.AnswerOf], rfl, ?_, fun _ => stays⟩
                cases options.continueOnFailure <;>
                  simp [Move.ends, Move.breaks, Move.misses, holds, required]
            | false =>
                apply Run.Emits.bind Request.emits_options
                · rintro reply es s' - ⟨rfl, rfl⟩
                  refine Run.Emits.pure ⟨by simp [Event.AnswerOf], rfl, ?_, fun _ => stays⟩
                  cases continues : options.continueOnFailure <;>
                    simp [Move.ends, Move.breaks, Move.misses, holds, required, Options.policy,
                      continues]
                · exact fun _ _ => id
          · rintro how es ⟨rfl, rfl, aborts⟩
            exact ⟨rfl, rfl, aborts, by simp⟩
  | report failure =>
      apply Run.Emits.bind (Request.emits_fail failure)
      · rintro - es s' - ⟨rfl, stays⟩
        refine Run.Emits.pure ⟨by simp [Event.AnswerOf], rfl, ?_, fun _ => stays⟩
        cases options.continueOnFailure <;> rfl
      · rintro how es ⟨rfl, rfl, aborts⟩
        exact ⟨rfl, rfl, aborts, by simp [Move.record?]⟩
  | ambient call =>
      apply Run.Emits.bind call.emits
      · rintro reply es s' - ⟨own, none⟩
        refine Run.Emits.pure ⟨by simpa using own, by simpa [Move.record?] using none, ?_,
          by simp [Move.record?]⟩
        cases options.continueOnFailure <;> rfl
      · exact fun _ _ => False.elim

/-- A script reports its records one after the other. If reports end the process, it comes to its
end only if it has none. -/
theorem Script.emits (script : Script) :
    (script.program.conduct options n).Emits s
      (fun _ es => (∀ e ∈ es, e.AnswerOf n) ∧
        reports es = (script.records options.continueOnFailure).map (n, ·) ∧
        (script.records options.continueOnFailure ≠ [] → options.assertOnFailure = false))
      (fun how es => (∀ e ∈ es, e.AnswerOf n) ∧ how = .aborted ∧ options.assertOnFailure = true ∧
        script.records options.continueOnFailure ≠ []) := by
  induction script generalizing s with
  | nil => exact Run.Emits.pure ⟨by simp, rfl, by simp [Script.records, upTo]⟩
  | cons m script ih =>
      have first : Script.program (m :: script) =
          m.conduct.bind fun goOn => if goOn then Script.program script else .skip := rfl
      rw [first, Program.conduct_bind, Script.records_cons]
      apply Run.Emits.bind m.emits
      · rintro goOn es s' - ⟨own, reported, rfl, stays⟩
        cases ends : m.ends options.continueOnFailure with
        | true =>
            refine Run.Emits.pure ⟨by simpa using own, by simpa using reported, ?_⟩
            simpa using stays
        | false =>
            apply (ih (s := s')).mono
            · rintro - es' ⟨own', reported', stays'⟩
              refine ⟨?_, ?_, ?_⟩
              · intro e mem
                exact (List.mem_append.1 mem).elim (own e) (own' e)
              · simp [reported, reported']
              · intro some
                by_cases record : m.record? = none
                · exact stays' (by simpa [record] using some)
                · exact stays record
            · rintro how es' ⟨own', rfl, aborts, some⟩
              refine ⟨?_, rfl, aborts, by simp [some]⟩
              intro e mem
              exact (List.mem_append.1 mem).elim (own e) (own' e)
      · rintro how es ⟨rfl, rfl, aborts, some⟩
        refine ⟨by simp, rfl, aborts, ?_⟩
        intro none
        exact some (Option.toList_eq_nil_iff.1 (List.append_eq_nil_iff.1 none).1)

end Emission

end SuiteTree
