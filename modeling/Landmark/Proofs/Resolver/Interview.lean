import Landmark.Proofs.Symbol.Speech
import Landmark.Resolver

/-! # Questions to a resolver

A question either recalls how the search for its symbol ended or lets the search run. What
it answers and complains of depends on the end of the search alone, and a resolver is
changed by it in one place at most: it remembers an end that was not fatal.
-/

namespace Landmark

open Log

namespace Query

variable {α β : Type} {resolver : Resolver}

@[simp] theorem ask_get : (get : Query Resolver).ask resolver = pure (.ok resolver, resolver) := rfl

@[simp] theorem ask_lift (a : Traced α) :
    Query.ask (ExceptT.lift (StateT.lift a)) resolver = a >>= fun x => pure (.ok x, resolver) := by
  simp only [Query.ask, ExceptT.run_lift, StateT.run_map, StateT.run_lift, map_bind, map_pure]

@[simp] theorem ask_bind (query : Query α) (later : α → Query β) :
    (query >>= later).ask resolver = query.ask resolver >>= fun asked =>
      match asked.1 with
      | .ok a => (later a).ask asked.2
      | .error fault => pure (.error fault, asked.2) := by
  simp only [Query.ask, ExceptT.run_bind, StateT.run_bind]
  congr 1
  funext asked
  cases asked with
  | mk result after => cases result <;> rfl

end Query

namespace Resolver

/-- A question that can be put to a resolver. -/
inductive Question where
  /-- How the search ended. -/
  | resolution (s : Symbol)
  /-- Whether the symbol can be determined. -/
  | isLoaded (s : Symbol)
  /-- What is found, if anything is. -/
  | find (s : Symbol)
  /-- What is found, which has to be something. -/
  | require (s : Symbol)
  deriving DecidableEq

namespace Question

def symbol : Question → Symbol
  | resolution s | isLoaded s | find s | require s => s

abbrev Answer : Question → Type
  | resolution s => Resolution s
  | isLoaded _ => Bool
  | find s => Option s.Location
  | require s => s.Location

def query [Decoder] : (question : Question) → Query question.Answer
  | resolution s => Resolver.resolution s
  | isLoaded s => Resolver.isLoaded s
  | find s => Resolver.find? s
  | require s => Resolver.require s

/-- The answer when the search is known to have ended so. -/
def answerTo : (question : Question) → Resolution question.symbol → Except Fatal question.Answer
  | resolution _, ended => .ok ended
  | isLoaded _, ended => .ok ended.toBool
  | find _, ended => .ok ended.toOption
  | require _, ended => ended.mapError Unresolved.fatal

/-- What is reported then: that a symbol which is required is missing. -/
def complaints : (question : Question) → Except Fatal (Resolution question.symbol) → List Event
  | require _, .ok (.error unresolved) =>
    [unresolvedEvent .warn "required symbol missing" unresolved]
  | _, _ => []

variable {s : Symbol} {ended : Except Fatal (Resolution s)}

end Question

/-- A question that has been put, and what came of it. -/
structure Exchange where
  question : Question
  answer : Except Fatal question.Answer
  events : List Event
  /-- Whether nothing was remembered of the symbol, so that it had to be searched for. -/
  searched : Bool
  /-- The resolver afterwards. -/
  later : Resolver

variable [Decoder]

def put (resolver : Resolver) (question : Question) : Exchange :=
  let asked := question.query.ask resolver
  { question
    answer := asked.value.1
    events := asked.events
    searched := (resolver.remembered question.symbol).isNone
    later := asked.value.2 }

def after (resolver : Resolver) (questions : List Question) : Resolver :=
  questions.foldl (fun resolver question => (resolver.put question).later) resolver

section Steps

variable {resolver : Resolver}

/-- How the search for a symbol ended, as remembered or as it ends now. -/
def ending (resolver : Resolver) (s : Symbol) : Except Fatal (Resolution s) :=
  match resolver.remembered s with
  | some ended => .ok ended
  | none => (resolver.searchFor s).result

/-- What a search for the symbol reports, if it is not remembered. -/
def searching (resolver : Resolver) (s : Symbol) : List Event :=
  match resolver.remembered s with
  | some _ => []
  | none => (resolver.searchFor s).events

/-- The resolver once the search for a symbol has ended. -/
def knowing (resolver : Resolver) (s : Symbol) : Resolver :=
  match resolver.remembered s, (resolver.searchFor s).result with
  | none, .ok ended => resolver.remember s ended
  | _, _ => resolver

theorem ask_resolution (s : Symbol) :
    (resolution s).ask resolver =
      { value := (resolver.ending s, resolver.knowing s), events := resolver.searching s } := by
  unfold resolution ending searching knowing
  simp only [Query.ask_bind, Query.ask_get, pure_bind]
  cases resolver.remembered s with
  | some ended => rfl
  | none =>
    simp only [Query.ask_bind, Query.ask_lift, bind_assoc, pure_bind]
    unfold Attempt.result Attempt.events
    cases (resolver.searchFor s).outcome with
    | mk value events =>
      cases value with
      | ok ended => exact congrArg (Traced.mk _) (List.append_nil events)
      | error fault => exact congrArg (Traced.mk _) (List.append_nil events)

theorem ask_query (question : Question) :
    question.query.ask resolver = {
      value := (resolver.ending question.symbol >>= question.answerTo,
        resolver.knowing question.symbol)
      events := resolver.searching question.symbol ++
        question.complaints (resolver.ending question.symbol) } := by
  cases question with
  | resolution s =>
    simp only [Question.query, Question.symbol, ask_resolution]
    cases resolver.ending s with
    | ok ended => exact congrArg (Traced.mk _) (List.append_nil _).symm
    | error fault => exact congrArg (Traced.mk _) (List.append_nil _).symm
  | isLoaded s =>
    simp only [Question.query, Question.symbol, isLoaded, Query.ask_bind, ask_resolution]
    cases resolver.ending s with
    | ok ended => rfl
    | error fault => rfl
  | find s =>
    simp only [Question.query, Question.symbol, find?, Query.ask_bind, ask_resolution]
    cases resolver.ending s with
    | ok ended => rfl
    | error fault => rfl
  | require s =>
    simp only [Question.query, Question.symbol, require, Query.ask_bind, ask_resolution]
    cases resolver.ending s with
    | ok ended =>
      cases ended with
      | ok location => rfl
      | error unresolved => rfl
    | error fault => rfl

theorem answer_put (question : Question) :
    (resolver.put question).answer = resolver.ending question.symbol >>= question.answerTo :=
  congrArg (fun asked => asked.value.1) (ask_query question)

theorem later_put (question : Question) :
    (resolver.put question).later = resolver.knowing question.symbol :=
  congrArg (fun asked => asked.value.2) (ask_query question)

end Steps

end Resolver

end Landmark
