import RowBinding.Expression.CallTrace
import RowBinding.Proofs.Expression.Agreement
import RowBinding.Proofs.Expression.Results

/-!
# Traces of calls

The events of a successful evaluation tell of its calls, of each of them once and
of no others, in the order in which the expression makes them.

Operands are evaluated in isolation or in the context of their parent. Which
calls they make is the same either way: the context decides only what is read
and indexed, and whether a truth value is inverted.
-/

namespace RowBinding

/-- The events that tell of calls, with the latest first. -/
def EvalState.callEvents (state : EvalState) : List Event :=
  state.events.filter Event.isOfCall

/-- From one state to another, there are reports of some calls and of no others. -/
def Reported
    (environment : Environment)
    (calls : List Call)
    (first last : EvalState) : Prop :=
  last.callEvents = (calls.flatMap (Call.events environment)).reverse ++ first.callEvents

namespace Reported

variable {environment : Environment}

theorem of_callEvents_eq
    {first last : EvalState}
    (same : last.callEvents = first.callEvents) :
    Reported environment [] first last :=
  same

theorem of_events
    {call : Call}
    {first last : EvalState}
    (events : List Event)
    (told : call.events environment = events)
    (recorded : last.callEvents = events.reverse ++ first.callEvents) :
    Reported environment [call] first last := by
  rw [Reported, List.flatMap_singleton, told, recorded]

theorem append
    {earlier later : List Call}
    {first middle last : EvalState}
    (reported : Reported environment earlier first middle)
    (reportedLater : Reported environment later middle last) :
    Reported environment (earlier ++ later) first last := by
  unfold Reported at *
  rw [reportedLater, reported, List.flatMap_append, List.reverse_append, List.append_assoc]

theorem of_left_eq
    {calls : List Call}
    {first other last : EvalState}
    (reported : Reported environment calls first last)
    (same : first.callEvents = other.callEvents) :
    Reported environment calls other last := by
  rw [Reported, ← same]
  exact reported

theorem of_right_eq
    {calls : List Call}
    {first other last : EvalState}
    (reported : Reported environment calls first last)
    (same : other.callEvents = last.callEvents) :
    Reported environment calls first other :=
  same.trans reported

end Reported

namespace Eval

variable {α β : Type}

/-! ## Steps without calls -/

/-- A step that makes no calls records no event of a call, also where it fails. -/
theorem CallFree.callEvents_eq {step : Eval α} (callFree : step.CallFree) :
    ∀ {state result final}, step state = (result, final) →
      final.callEvents = state.callEvents := by
  induction callFree with
  | pure value | context | modifyContext change | recordRead member owner =>
      intro state result final runs
      cases runs
      rfl
  | liftM outcome =>
      intro state result final runs
      cases outcome <;> cases runs <;> rfl
  | bind _ _ same continues =>
      intro state result final runs
      rw [bind_apply] at runs
      split at runs
      case h_1 value middle first => exact (continues value runs).trans (same first)
      case h_2 error middle first =>
        cases runs
        exact same first

/-! ## Steps around operands -/

section Around

variable {step : Eval α} {next : α → Eval β} {state final : EvalState} {result : β}

/-- After a step that makes no calls, a sequence goes on without a new report. -/
theorem CallFree.bind_apply_eq_ok
    (callFree : step.CallFree)
    (runs : (step >>= next) state = (.ok result, final)) :
    ∃ value middle, middle.callEvents = state.callEvents ∧
      next value middle = (.ok result, final) := by
  obtain ⟨value, middle, first, rest⟩ := Eval.bind_apply_eq_ok runs
  exact ⟨value, middle, callFree.callEvents_eq first, rest⟩

theorem liftM_bind_apply_eq_ok
    {outcome : Except EvalError α}
    (runs : ((liftM outcome : Eval α) >>= next) state = (.ok result, final)) :
    ∃ value, outcome = .ok value ∧ next value state = (.ok result, final) := by
  cases outcome with
  | error error => cases runs
  | ok value => exact ⟨value, rfl, runs⟩

end Around

section Operands

variable {step : Eval Value} {state final : EvalState} {value : Value}

/-- A negation makes no calls but those of its operand. -/
theorem operand_of_underNegation
    (runs : underNegation step state = (.ok value, final)) :
    ∃ inner first last, step first = (.ok inner, last) ∧
      first.callEvents = state.callEvents ∧ final.callEvents = last.callEvents := by
  obtain ⟨_, begun, sameBegun, runs⟩ := CallFree.context.bind_apply_eq_ok runs
  obtain ⟨_, first, sameFirst, runs⟩ := (CallFree.modifyContext _).bind_apply_eq_ok runs
  obtain ⟨inner, last, isInner, runs⟩ := bind_apply_eq_ok runs
  refine ⟨inner, first, last, isInner, sameFirst.trans sameBegun, ?_⟩
  refine CallFree.callEvents_eq (CallFree.context.bind fun left => ?_) runs
  split
  · exact .pure _
  · exact (CallFree.modifyContext _).bind fun _ => .liftM _

/-- An index makes no calls but those of its list. -/
theorem operand_of_underIndex
    {index : Int}
    (runs : underIndex index step state = (.ok value, final)) :
    ∃ inner first last, step first = (.ok inner, last) ∧
      first.callEvents = state.callEvents ∧ final.callEvents = last.callEvents := by
  obtain ⟨_, begun, sameBegun, runs⟩ := CallFree.context.bind_apply_eq_ok runs
  obtain ⟨_, first, sameFirst, runs⟩ := (CallFree.modifyContext _).bind_apply_eq_ok runs
  obtain ⟨inner, last, isInner, runs⟩ := bind_apply_eq_ok runs
  refine ⟨inner, first, last, isInner, sameFirst.trans sameBegun, ?_⟩
  refine CallFree.callEvents_eq (CallFree.context.bind fun left => ?_) runs
  dsimp only
  split
  · exact (CallFree.modifyContext _).bind fun _ => .liftM _
  · exact .pure _

end Operands

/-! ## Calls -/

section Calls

variable {environment : Environment} {state final : EvalState} {value : Value}

theorem invokeMethod_apply_eq_ok
    {method : MethodRef}
    {receiver : Option Value}
    {arguments : List Value}
    (runs : invokeMethod environment method receiver arguments state = (.ok value, final)) :
    method.invoke environment.host receiver arguments = .ok value ∧
      final = ⟨state.context, .invoke method receiver arguments :: state.events⟩ := by
  change (liftM (method.invoke environment.host receiver arguments) : Eval Value)
    ⟨state.context, .invoke method receiver arguments :: state.events⟩ = _ at runs
  cases invoked : method.invoke environment.host receiver arguments with
  | error error =>
      rw [invoked] at runs
      cases runs
  | ok result =>
      rw [invoked] at runs
      cases runs
      exact ⟨rfl, rfl⟩

/-- A call is reported with the answer that it had. -/
theorem reported_callThrough
    {site : CallSite}
    {receiver : Option Value}
    {arguments : List Value}
    (runs : callThrough environment site receiver arguments state = (.ok value, final)) :
    ∃ answer, site.answer environment receiver arguments = .ok answer ∧
      Reported environment [.ofSite site receiver arguments answer] state final := by
  unfold callThrough at runs
  unfold CallSite.answer
  cases hooks : environment.interceptor with
  | none =>
      rw [hooks] at runs
      obtain ⟨invoked, rfl⟩ := invokeMethod_apply_eq_ok runs
      exact ⟨value, invoked, .of_events [.invoke site.method receiver arguments]
        (by simp only [Call.events, hooks]) rfl⟩
  | some interceptor =>
      rw [hooks] at runs
      obtain ⟨_, asked, isAsked, runs⟩ := bind_apply_eq_ok runs
      cases isAsked
      cases answered : interceptor.before receiver site with
      | none =>
          simp only [answered] at runs
          obtain ⟨answer, middle, isAnswer, runs⟩ := bind_apply_eq_ok runs
          obtain ⟨invoked, rfl⟩ := invokeMethod_apply_eq_ok isAnswer
          cases runs
          refine ⟨answer, ?_, .of_events [.before site receiver,
            .invoke site.method receiver arguments, .after site receiver answer]
              (by simp only [Call.events, hooks, answered]) rfl⟩
          rw [Option.bind_some, answered]
          exact invoked
      | some answer =>
          simp only [answered] at runs
          cases runs
          refine ⟨answer, ?_, .of_events [.before site receiver, .after site receiver answer]
            (by simp only [Call.events, hooks, answered]) rfl⟩
          rw [Option.bind_some, answered]
          rfl

end Calls
end Eval

namespace Expr

open Eval

/-- Where an evaluation succeeds, the calls of the expression are reported. -/
def ReportsCalls (environment : Environment) (expression : Expr) : Prop :=
  ∀ state value final, expression.visit environment state = (.ok value, final) →
    ∃ calls, expression.calls environment = .ok calls ∧
      Reported environment calls state final

section Operands

variable {environment : Environment} {state final : EvalState}

/-- An isolated operand comes to what it evaluates to, and its calls are reported. -/
theorem reported_isolated
    {operand : Expr}
    {value : Value}
    (reports : operand.ReportsCalls environment)
    (runs : isolated (operand.visit environment) state = (.ok value, final)) :
    (operand.evaluate environment).result = .ok value ∧
      ∃ calls, operand.calls environment = .ok calls ∧
        Reported environment calls state final := by
  have isValue := result_evaluate_of_isolated runs
  cases inside : operand.visit environment ⟨{}, state.events⟩ with
  | mk result last =>
      -- Isolation restores the context around what was recorded.
      have restored :
          (result, (⟨state.context, last.events⟩ : EvalState)) = (.ok value, final) := by
        rw [← runs, isolated, ExceptT.run, inside]
      cases restored
      obtain ⟨calls, areCalls, reported⟩ := reports _ _ _ inside
      exact ⟨isValue, calls, areCalls, reported⟩

/-- After an isolated operand, a sequence goes on with the value of the operand. -/
theorem reported_operand_bind
    {α : Type}
    {operand : Expr}
    {next : Value → Eval α}
    {result : α}
    (reports : operand.ReportsCalls environment)
    (runs : (isolated (operand.visit environment) >>= next) state = (.ok result, final)) :
    ∃ value calls middle, (operand.evaluate environment).result = .ok value ∧
      operand.calls environment = .ok calls ∧ Reported environment calls state middle ∧
        next value middle = (.ok result, final) := by
  obtain ⟨value, middle, first, rest⟩ := bind_apply_eq_ok runs
  obtain ⟨isValue, calls, areCalls, reported⟩ := reported_isolated reports first
  exact ⟨value, calls, middle, isValue, areCalls, reported, rest⟩

/-- After a condition, a sequence goes on with whether the operand passes. -/
theorem reported_condition_bind
    {α : Type}
    {operand : Expr}
    {next : Bool → Eval α}
    {result : α}
    (reports : operand.ReportsCalls environment)
    (runs : (do
      let value ← isolated (operand.visit environment)
      next (← value.truthy) : Eval α) state = (.ok result, final)) :
    ∃ passes calls middle, operand.passes environment = .ok passes ∧
      operand.calls environment = .ok calls ∧ Reported environment calls state middle ∧
        next passes middle = (.ok result, final) := by
  obtain ⟨value, calls, middle, isValue, areCalls, reported, runs⟩ :=
    reported_operand_bind reports runs
  obtain ⟨passes, isTruth, runs⟩ := liftM_bind_apply_eq_ok runs
  refine ⟨passes, calls, middle, ?_, areCalls, reported, runs⟩
  rw [Expr.passes, isValue]
  exact isTruth

theorem reported_visitAll
    {expressions : List Expr}
    (report : ∀ expression ∈ expressions, expression.ReportsCalls environment) :
    ∀ {state values}, visitAll environment expressions state = (.ok values, final) →
      ∃ calls, allCalls environment expressions = .ok calls ∧
        Reported environment calls state final := by
  induction expressions with
  | nil =>
      intro state values runs
      cases runs
      exact ⟨[], rfl, .of_callEvents_eq rfl⟩
  | cons expression rest inductionHypothesis =>
      intro state values runs
      obtain ⟨value, ofFirst, middle, _, isFirst, reported, runs⟩ :=
        reported_operand_bind (report expression List.mem_cons_self) runs
      obtain ⟨others, last, areOthers, runs⟩ := bind_apply_eq_ok runs
      cases runs
      obtain ⟨ofRest, isRest, reportedRest⟩ :=
        inductionHypothesis (fun other inside => report other (List.mem_cons_of_mem _ inside))
          areOthers
      exact ⟨ofFirst ++ ofRest, by rw [allCalls, isFirst, isRest]; rfl,
        reported.append reportedRest⟩

/-- An argument is passed as its value, and is evaluated unless it is handed over. -/
theorem reported_visitArgument
    {argument : Expr}
    {value : Value}
    (reports : argument.ReportsCalls environment)
    (runs : visitArgument environment argument state = (.ok value, final)) :
    argument.argumentValue environment = .ok value ∧
      ∃ calls,
        (if argument.staticType = .expression then pure []
          else argument.calls environment) = Except.ok calls ∧
        Reported environment calls state final := by
  unfold visitArgument at runs
  unfold argumentValue
  split at runs
  case isTrue handedOver =>
      cases runs
      rw [if_pos handedOver, if_pos handedOver]
      exact ⟨rfl, [], rfl, .of_callEvents_eq rfl⟩
  case isFalse evaluated =>
      rw [if_neg evaluated, if_neg evaluated]
      exact reported_isolated reports runs

theorem argumentCalls_cons (argument : Expr) (rest : List Expr) :
    argumentCalls environment (argument :: rest) =
      ((if argument.staticType = .expression then pure [] else argument.calls environment) >>=
        fun ofFirst => do return ofFirst ++ (← argumentCalls environment rest)) := by
  rw [argumentCalls]
  split <;> rfl

theorem reported_visitArguments
    {arguments : List Expr}
    (report : ∀ argument ∈ arguments, argument.ReportsCalls environment) :
    ∀ {state values}, visitArguments environment arguments state = (.ok values, final) →
      arguments.mapM (argumentValue environment) = .ok values ∧
        ∃ calls, argumentCalls environment arguments = .ok calls ∧
          Reported environment calls state final := by
  induction arguments with
  | nil =>
      intro state values runs
      cases runs
      exact ⟨rfl, [], rfl, .of_callEvents_eq rfl⟩
  | cons argument rest inductionHypothesis =>
      intro state values runs
      rw [visitArguments_eq_mapM, List.mapM_cons] at runs
      obtain ⟨value, middle, isVisited, runs⟩ := bind_apply_eq_ok runs
      obtain ⟨isValue, ofFirst, isFirst, reported⟩ :=
        reported_visitArgument (report argument List.mem_cons_self) isVisited
      obtain ⟨others, last, areVisited, runs⟩ := bind_apply_eq_ok runs
      cases runs
      rw [← visitArguments_eq_mapM] at areVisited
      obtain ⟨areOthers, ofRest, isRest, reportedRest⟩ :=
        inductionHypothesis (fun other inside => report other (List.mem_cons_of_mem _ inside))
          areVisited
      refine ⟨?_, ofFirst ++ ofRest, ?_, reported.append reportedRest⟩
      · rw [List.mapM_cons, isValue, areOthers]
        rfl
      · rw [argumentCalls_cons, isFirst, isRest]
        rfl

theorem reported_visitBindings
    {bindings : List (MemberRef × Expr)}
    (report : ∀ binding ∈ bindings, binding.2.ReportsCalls environment) :
    ∀ {state object value},
      visitBindings environment bindings object state = (.ok value, final) →
        ∃ calls, bindingCalls environment bindings = .ok calls ∧
          Reported environment calls state final := by
  induction bindings with
  | nil =>
      intro state object value runs
      cases runs
      exact ⟨[], rfl, .of_callEvents_eq rfl⟩
  | cons binding rest inductionHypothesis =>
      intro state object value runs
      obtain ⟨bound, ofFirst, middle, _, isFirst, reported, runs⟩ :=
        reported_operand_bind (report binding List.mem_cons_self) runs
      obtain ⟨written, _, runs⟩ := liftM_bind_apply_eq_ok runs
      obtain ⟨ofRest, isRest, reportedRest⟩ :=
        inductionHypothesis (fun other inside => report other (List.mem_cons_of_mem _ inside))
          runs
      exact ⟨ofFirst ++ ofRest, by rw [bindingCalls, isFirst, isRest]; rfl,
        reported.append reportedRest⟩

end Operands

/-! ## Nodes -/

section Nodes

variable {environment : Environment}

theorem reportsCalls_of_callFree
    {expression : Expr}
    (callFree : (expression.visit environment).CallFree)
    (noCalls : expression.calls environment = .ok []) :
    expression.ReportsCalls environment :=
  fun _ _ _ runs => ⟨[], noCalls, .of_callEvents_eq (callFree.callEvents_eq runs)⟩

theorem reportsCalls_member
    {owner : Expr}
    (reference : MemberRef)
    (reports : owner.ReportsCalls environment) :
    (Expr.member owner reference).ReportsCalls environment := by
  intro state value final runs
  unfold visit at runs
  cases isKind : owner.ownerKind with
  | input name =>
      rw [isKind] at runs
      cases runs
  | chained =>
      rw [isKind] at runs
      obtain ⟨_, middle, same, runs⟩ := (CallFree.modifyContext _).bind_apply_eq_ok runs
      obtain ⟨calls, areCalls, reported⟩ := reports _ _ _ runs
      exact ⟨calls, areCalls, reported.of_left_eq same⟩
  | computed =>
      rw [isKind] at runs
      obtain ⟨_, middle, same, runs⟩ := (CallFree.modifyContext _).bind_apply_eq_ok runs
      obtain ⟨root, calls, last, _, areCalls, reported, runs⟩ :=
        reported_operand_bind reports runs
      have reads := (CallFree.resolveFrames environment root).bind .takeNegation
      exact ⟨calls, areCalls,
        (reported.of_left_eq same).of_right_eq (reads.callEvents_eq runs)⟩

/-- The call of a site is reported once, whatever is made of its result afterwards. -/
theorem reported_site
    {site : CallSite}
    {receiver : Option Value}
    {values : List Value}
    {state final : EvalState}
    {value : Value}
    (areValues : site.arguments.mapM (argumentValue environment) = .ok values)
    (isReceiver : site.receiverValue environment = .ok receiver)
    (runs : (callThrough environment site receiver values >>= takeNegation) state =
      (.ok value, final)) :
    ∃ own, site.call environment = .ok own ∧ Reported environment [own] state final := by
  obtain ⟨result, middle, isCalled, runs⟩ := bind_apply_eq_ok runs
  obtain ⟨answer, isAnswer, reported⟩ := reported_callThrough isCalled
  refine ⟨.ofSite site receiver values answer, ?_,
    reported.of_right_eq ((CallFree.takeNegation result).callEvents_eq runs)⟩
  simp only [CallSite.call, areValues, isReceiver, isAnswer, Outcome.ok_bind, Outcome.pure_eq_ok]

theorem reportsCalls_call
    {receiver : Expr}
    {arguments : List Expr}
    (method : MethodRef)
    (reports : receiver.ReportsCalls environment)
    (report : ∀ argument ∈ arguments, argument.ReportsCalls environment) :
    (Expr.call receiver method arguments).ReportsCalls environment := by
  intro state value final runs
  obtain ⟨values, afterArguments, areVisited, runs⟩ := bind_apply_eq_ok runs
  obtain ⟨areValues, ofArguments, areOfArguments, reportedArguments⟩ :=
    reported_visitArguments report areVisited
  obtain ⟨owner, ofReceiver, afterReceiver, isOwner, areOfReceiver, reportedReceiver, runs⟩ :=
    reported_operand_bind reports runs
  have isReceiver :
      CallSite.receiverValue environment ⟨some receiver, method, arguments⟩ =
        .ok owner.asReceiver := by
    simp only [CallSite.receiverValue, isOwner, Outcome.ok_bind, Outcome.pure_eq_ok]
  obtain ⟨own, isOwn, reportedOwn⟩ := reported_site areValues isReceiver runs
  refine ⟨ofArguments ++ ofReceiver ++ [own], ?_,
    (reportedArguments.append reportedReceiver).append reportedOwn⟩
  rw [calls, areOfArguments, areOfReceiver, isOwn]
  rfl

theorem reportsCalls_staticCall
    {arguments : List Expr}
    (method : MethodRef)
    (report : ∀ argument ∈ arguments, argument.ReportsCalls environment) :
    (Expr.staticCall method arguments).ReportsCalls environment := by
  intro state value final runs
  obtain ⟨values, afterArguments, areVisited, runs⟩ := bind_apply_eq_ok runs
  obtain ⟨areValues, ofArguments, areOfArguments, reportedArguments⟩ :=
    reported_visitArguments report areVisited
  obtain ⟨own, isOwn, reportedOwn⟩ := reported_site areValues rfl runs
  refine ⟨ofArguments ++ [own], ?_, reportedArguments.append reportedOwn⟩
  rw [calls, areOfArguments, isOwn]
  rfl

theorem reportsCalls_unary
    {operand : Expr}
    (operator : UnaryOperator)
    (type : StaticType)
    (reports : operand.ReportsCalls environment) :
    (Expr.unary operator operand type).ReportsCalls environment := by
  intro state value final runs
  cases operator with
  | not =>
      rw [visit_not] at runs
      obtain ⟨inner, first, last, isInner, sameFirst, sameLast⟩ := operand_of_underNegation runs
      obtain ⟨calls, areCalls, reported⟩ := reports _ _ _ isInner
      exact ⟨calls, areCalls, (reported.of_left_eq sameFirst).of_right_eq sameLast⟩
  | negate | convert =>
      obtain ⟨_, calls, last, _, areCalls, reported, runs⟩ := reported_operand_bind reports runs
      exact ⟨calls, areCalls, reported.of_right_eq ((CallFree.liftM _).callEvents_eq runs)⟩
  | quote =>
      cases runs
      exact ⟨[], rfl, .of_callEvents_eq rfl⟩

/-- Two operands that are both evaluated, in isolation and in order. -/
theorem reported_operands
    {first second : Expr}
    {next : Value → Value → Eval Value}
    {state final : EvalState}
    {value : Value}
    (firstReports : first.ReportsCalls environment)
    (secondReports : second.ReportsCalls environment)
    (runs : (do
      let one ← isolated (first.visit environment)
      let other ← isolated (second.visit environment)
      next one other : Eval Value) state = (.ok value, final)) :
    ∃ one other earlier later middle,
      (first.evaluate environment).result = .ok one ∧
      (second.evaluate environment).result = .ok other ∧
      first.calls environment = .ok earlier ∧ second.calls environment = .ok later ∧
      Reported environment (earlier ++ later) state middle ∧
      next one other middle = (.ok value, final) := by
  obtain ⟨one, earlier, between, isOne, areEarlier, reported, runs⟩ :=
    reported_operand_bind firstReports runs
  obtain ⟨other, later, middle, isOther, areLater, reportedLater, runs⟩ :=
    reported_operand_bind secondReports runs
  exact ⟨one, other, earlier, later, middle, isOne, isOther, areEarlier, areLater,
    reported.append reportedLater, runs⟩

theorem reported_operandTruth
    {operand : Expr}
    {state final : EvalState}
    {value : Value}
    (reports : operand.ReportsCalls environment)
    (runs : operandTruth environment operand state = (.ok value, final)) :
    ∃ calls, operand.calls environment = .ok calls ∧
      Reported environment calls state final := by
  obtain ⟨_, calls, middle, _, areCalls, reported, runs⟩ :=
    reported_condition_bind reports runs
  cases runs
  exact ⟨calls, areCalls, reported⟩

theorem reportsCalls_binary
    {left right : Expr}
    (operator : BinaryOperator)
    (leftReports : left.ReportsCalls environment)
    (rightReports : right.ReportsCalls environment) :
    (Expr.binary operator left right).ReportsCalls environment := by
  intro state value final runs
  cases operator with
  | andAlso =>
      obtain ⟨passes, ofLeft, middle, isPassed, areOfLeft, reported, runs⟩ :=
        reported_condition_bind leftReports runs
      cases passes with
      | true =>
          obtain ⟨ofRight, areOfRight, reportedRight⟩ := reported_operandTruth rightReports runs
          refine ⟨ofLeft ++ ofRight, ?_, reported.append reportedRight⟩
          rw [calls, areOfLeft, isPassed, areOfRight]
          rfl
      | false =>
          cases runs
          refine ⟨ofLeft, ?_, reported⟩
          rw [calls, areOfLeft, isPassed]
          rfl
  | orElse =>
      obtain ⟨passes, ofLeft, middle, isPassed, areOfLeft, reported, runs⟩ :=
        reported_condition_bind leftReports runs
      cases passes with
      | true =>
          cases runs
          refine ⟨ofLeft, ?_, reported⟩
          rw [calls, areOfLeft, isPassed]
          rfl
      | false =>
          obtain ⟨ofRight, areOfRight, reportedRight⟩ := reported_operandTruth rightReports runs
          refine ⟨ofLeft ++ ofRight, ?_, reported.append reportedRight⟩
          rw [calls, areOfLeft, isPassed, areOfRight]
          rfl
  | arrayIndex =>
      -- The position comes first; the list is not isolated, and the index waits below it.
      rw [visit_arrayIndex] at runs
      obtain ⟨_, ofRight, middle, _, areOfRight, reported, runs⟩ :=
        reported_operand_bind rightReports runs
      obtain ⟨index, _, runs⟩ := liftM_bind_apply_eq_ok runs
      obtain ⟨inner, first, last, isInner, sameFirst, sameLast⟩ := operand_of_underIndex runs
      obtain ⟨ofLeft, areOfLeft, reportedLeft⟩ := leftReports _ _ _ isInner
      refine ⟨ofRight ++ ofLeft, ?_,
        reported.append ((reportedLeft.of_left_eq sameFirst).of_right_eq sameLast)⟩
      rw [calls, areOfRight, areOfLeft]
      rfl
  | _ =>
      obtain ⟨one, other, ofLeft, ofRight, middle, _, _, areOfLeft, areOfRight, reported, runs⟩ :=
        reported_operands leftReports rightReports runs
      refine ⟨ofLeft ++ ofRight, ?_, reported.of_right_eq ((CallFree.liftM _).callEvents_eq runs)⟩
      change (left.calls environment >>= fun _ => right.calls environment >>= _) = _
      rw [areOfLeft, areOfRight]
      rfl

theorem reportsCalls_binaryBy
    {left right : Expr}
    (operator : BinaryOperator)
    (method : MethodRef)
    (leftReports : left.ReportsCalls environment)
    (rightReports : right.ReportsCalls environment) :
    (Expr.binaryBy operator left right method).ReportsCalls environment := by
  intro state value final runs
  obtain ⟨one, other, ofLeft, ofRight, middle, isOne, isOther, areOfLeft, areOfRight,
    reported, runs⟩ := reported_operands leftReports rightReports runs
  obtain ⟨_, rfl⟩ := invokeMethod_apply_eq_ok runs
  refine ⟨ofLeft ++ ofRight ++ [.ofOperator method one other], ?_,
    reported.append (.of_events [.invoke method none [one, other]] rfl rfl)⟩
  rw [calls, areOfLeft, areOfRight, isOne, isOther]
  rfl

theorem reportsCalls_conditional
    {test onTrue onFalse : Expr}
    (testReports : test.ReportsCalls environment)
    (trueReports : onTrue.ReportsCalls environment)
    (falseReports : onFalse.ReportsCalls environment) :
    (Expr.conditional test onTrue onFalse).ReportsCalls environment := by
  intro state value final runs
  obtain ⟨passes, ofTest, middle, isPassed, areOfTest, reported, runs⟩ :=
    reported_condition_bind testReports runs
  cases passes with
  | true =>
      obtain ⟨ofTaken, areOfTaken, reportedTaken⟩ := trueReports _ _ _ runs
      refine ⟨ofTest ++ ofTaken, ?_, reported.append reportedTaken⟩
      rw [calls, areOfTest, isPassed, areOfTaken]
      rfl
  | false =>
      obtain ⟨ofTaken, areOfTaken, reportedTaken⟩ := falseReports _ _ _ runs
      refine ⟨ofTest ++ ofTaken, ?_, reported.append reportedTaken⟩
      rw [calls, areOfTest, isPassed, areOfTaken]
      rfl

theorem reportsCalls_listInit
    {arguments items : List Expr}
    (constructor : ConstructorRef)
    (report : ∀ argument ∈ arguments, argument.ReportsCalls environment)
    (itemsReport : ∀ item ∈ items, item.ReportsCalls environment) :
    (Expr.listInit constructor arguments items).ReportsCalls environment := by
  intro state value final runs
  obtain ⟨values, middle, areVisited, runs⟩ := bind_apply_eq_ok runs
  obtain ⟨ofArguments, areOfArguments, reported⟩ := reported_visitAll report areVisited
  obtain ⟨constructed, _, runs⟩ := liftM_bind_apply_eq_ok runs
  cases constructed with
  | list elements =>
      obtain ⟨added, last, areAdded, runs⟩ := bind_apply_eq_ok runs
      cases runs
      obtain ⟨ofItems, areOfItems, reportedItems⟩ := reported_visitAll itemsReport areAdded
      refine ⟨ofArguments ++ ofItems, ?_, reported.append reportedItems⟩
      rw [calls, areOfArguments, areOfItems]
      rfl
  | _ => cases runs

end Nodes

/-- The calls of every expression are reported wherever it is evaluated with success. -/
theorem reportsCalls (environment : Environment) (expression : Expr) :
    expression.ReportsCalls environment := by
  induction expression using inductionOn with
  | lambda parameters body reports => exact reports
  | parameter name type | defaultOf type => exact reportsCalls_of_callFree (.pure _) rfl
  | constant literal type => exact reportsCalls_of_callFree (.constant environment literal) rfl
  | member owner reference reports => exact reportsCalls_member reference reports
  | staticMember reference =>
      exact reportsCalls_of_callFree
        ((CallFree.modifyContext _).bind fun _ => .constant environment _) rfl
  | call receiver method arguments reports report => exact reportsCalls_call method reports report
  | staticCall method arguments report => exact reportsCalls_staticCall method report
  | unary operator operand type reports => exact reportsCalls_unary operator type reports
  | binary operator left right leftReports rightReports =>
      exact reportsCalls_binary operator leftReports rightReports
  | binaryBy operator left right method leftReports rightReports =>
      exact reportsCalls_binaryBy operator method leftReports rightReports
  | conditional test onTrue onFalse testReports trueReports falseReports =>
      exact reportsCalls_conditional testReports trueReports falseReports
  | construct constructor arguments report =>
      intro state value final runs
      obtain ⟨values, middle, areVisited, runs⟩ := bind_apply_eq_ok runs
      obtain ⟨calls, areCalls, reported⟩ := reported_visitAll report areVisited
      exact ⟨calls, areCalls, reported.of_right_eq ((CallFree.liftM _).callEvents_eq runs)⟩
  | memberInit constructor arguments bindings report bindingsReport =>
      intro state value final runs
      obtain ⟨values, middle, areVisited, runs⟩ := bind_apply_eq_ok runs
      obtain ⟨ofArguments, areOfArguments, reported⟩ := reported_visitAll report areVisited
      obtain ⟨allocated, _, runs⟩ := liftM_bind_apply_eq_ok runs
      obtain ⟨ofBindings, areOfBindings, reportedBindings⟩ :=
        reported_visitBindings bindingsReport runs
      refine ⟨ofArguments ++ ofBindings, ?_, reported.append reportedBindings⟩
      rw [calls, areOfArguments, areOfBindings]
      rfl
  | listInit constructor arguments items report itemsReport =>
      exact reportsCalls_listInit constructor report itemsReport
  | newArray elementType items report =>
      intro state value final runs
      obtain ⟨values, middle, areVisited, runs⟩ := bind_apply_eq_ok runs
      cases runs
      exact reported_visitAll report areVisited

/--
The events of a successful evaluation that tell of calls tell of each call of the
expression once, in the order of the calls.
-/
theorem events_evaluate_of_calls
    {environment : Environment}
    {expression : Expr}
    {value : Value}
    (succeeds : (expression.evaluate environment).result = .ok value) :
    ∃ calls, expression.calls environment = .ok calls ∧
      (expression.evaluate environment).events.filter Event.isOfCall =
        calls.flatMap (Call.events environment) := by
  unfold evaluate at succeeds ⊢
  cases runs : (expression.visit environment).run {} with
  | mk result final =>
      rw [runs] at succeeds
      cases succeeds
      obtain ⟨calls, areCalls, reported⟩ := reportsCalls environment expression _ _ _ runs
      refine ⟨calls, areCalls, ?_⟩
      change final.events.reverse.filter Event.isOfCall = _
      rw [List.filter_reverse]
      change final.callEvents.reverse = _
      rw [reported]
      simp [EvalState.callEvents]

/-- An environment with an interceptor that answers the calls on no receiver. -/
def answeringStatic : Environment :=
  { fieldsOnly with interceptor := some {
      before := fun receiver _ => if receiver.isNone then some (.boolean true) else none } }

/--
The year of a length, with a month and a quoted day as its arguments. It is what
is left of a condition whose other calls are not made.
-/
def yearOfLength : Expr :=
  .conditional
    (.binary .andAlso (.ofValue (.boolean false)) (SqlFunction.count.call []))
    (SqlFunction.max.call [])
    (.call (SqlFunction.len.call [.ofValue (.string "abc")]) (SqlFunction.year.method .object)
      [SqlFunction.month.call [], .unary .quote (SqlFunction.day.call []) .expression])

theorem events_evaluate_yearOfLength :
    (yearOfLength.evaluate answeringStatic).result = .ok (.integer (.zero .int32)) ∧
      ∃ calls, yearOfLength.calls answeringStatic = .ok calls ∧ calls.length = 3 ∧
        (yearOfLength.evaluate answeringStatic).events.filter Event.isOfCall =
          calls.flatMap (Call.events answeringStatic) := by
  have succeeds :
      (yearOfLength.evaluate answeringStatic).result = .ok (.integer (.zero .int32)) := rfl
  obtain ⟨calls, areCalls, told⟩ := events_evaluate_of_calls succeeds
  refine ⟨succeeds, calls, areCalls, ?_, told⟩
  cases areCalls
  rfl

end Expr
end RowBinding
