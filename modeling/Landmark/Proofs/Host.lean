import Landmark.Host
import Landmark.Proofs.Resolver.Memory

/-! # The first resolver stays

A session takes the first module that is offered to it with a configuration that can be used, and
keeps it. Until then every question is a fault and leaves no trace. From then on the session
answers as a resolver would that has just been made for that module, whatever went wrong in
between.
-/

namespace Landmark.Host

open Log
open Resolver (Question Tracks)

variable {α : Type}

/-! ## What a session should reply -/

/-- A question to the resolver, and how its answer is shown. -/
structure Access where
  question : Question
  shown : question.Answer → Reply

/-- What a command is for. -/
inductive Purpose where
  /-- To put a resolver in, or the fault for which none can be made. -/
  | offers (made : Except Fatal Resolver)
  /-- To see whose resolver it is. -/
  | names
  /-- To ask the resolver. -/
  | asks (access : Access)
  /-- Something that has nothing to do with the resolver. -/
  | apart (reply : Reply)

/-- The reply that shows a value, or raises the fault. -/
def shownOrRaised (shown : α → Reply) : Except Fatal α → Reply
  | .ok value => shown value
  | .error fault => .raised ("fatal: " ++ fault.message)

def Command.purpose : Command → Purpose
  | .setHandler _ | .startLog _ => .apart .done
  | .report _ fault _ => .apart (.failed fault)
  | .unwrap result => .apart (shownOrRaised .address result)
  | .adopt owner config => .offers (Resolver.new owner config)
  | .install name view config => .offers do
    Resolver.new (← (LoadedModule.load name view config.opening).result) config
  | .moduleName => .names
  | .isLoaded s => .asks ⟨.isLoaded s, .flag⟩
  | .notifierInstance => .asks ⟨.require .notifier, fun found => .address found.instance⟩
  | .notifierNotify => .asks ⟨.require .notifier, fun found => .address found.notify⟩
  | .tryGlobals => .asks ⟨.find .globals, .maybeAddress⟩
  | .globals => .asks ⟨.require .globals, .address⟩
  | .player => .asks ⟨.require .player, .address⟩
  | .cvar => .asks ⟨.require .cvar, .address⟩

namespace Purpose

/-- The resolver that is offered, if it can be made. -/
def offered? : Purpose → Option Resolver
  | offers made => made.toOption
  | names | asks _ | apart _ => none

/-- What is to be found out through the resolver that stands, if there is one. -/
def through (standing : Option Resolver) (answer : Resolver → Except Fatal α) : Except Fatal α :=
  match standing with
  | none => .error Session.noResolver
  | some fresh => answer fresh

/-- The reply where `standing` is the resolver that was offered first, just as it was made. -/
def reply [Decoder] (standing : Option Resolver) : Purpose → Reply
  | offers (.error fault) => .failed fault
  | offers (.ok _) => .flag standing.isNone
  | names => shownOrRaised .name (through standing fun fresh => .ok fresh.owner.name)
  | asks access =>
    shownOrRaised access.shown (through standing fun fresh => (fresh.put access.question).answer)
  | apart reply => reply

end Purpose

/-- The replies to commands one after another, where `standing` stands at first. -/
def repliesFrom [Decoder] (standing : Option Resolver) : List Command → List Reply
  | [] => []
  | command :: rest =>
    command.purpose.reply standing ::
      repliesFrom (standing.or command.purpose.offered?) rest

/-- The first of the resolvers that are offered. -/
def firstOffered? (commands : List Command) : Option Resolver :=
  commands.findSome? fun command => command.purpose.offered?

theorem firstOffered?_cons (command : Command) (rest : List Command) :
    firstOffered? (command :: rest) = command.purpose.offered?.or (firstOffered? rest) := by
  rw [firstOffered?, List.findSome?_cons]
  cases command.purpose.offered? <;> rfl

theorem repliesFrom_append [Decoder] (standing : Option Resolver) (earlier later : List Command) :
    repliesFrom standing (earlier ++ later) =
      repliesFrom standing earlier ++
        repliesFrom (standing.or (firstOffered? earlier)) later := by
  induction earlier generalizing standing with
  | nil =>
    rw [firstOffered?, List.findSome?_nil, Option.or_none]
    rfl
  | cons command rest ih =>
    rw [firstOffered?_cons, ← Option.or_assoc]
    exact congrArg _ (ih _)

namespace Session

variable {session : Session} {command : Command}

/-- The session behind some commands. -/
def after [Decoder] (session : Session) (commands : List Command) : Session :=
  commands.foldl (fun session command => (session.perform command).session) session

/-! ## One command -/

/-- A turn shows a value, or hands a fault to the handler. -/
def Ends (turn : Turn) (shown : α → Reply) : Except Fatal α → Prop
  | .ok value => ∃ events, turn = turn.session.answer events (shown value)
  | .error fault => ∃ events, turn = turn.session.abort events fault

theorem reply_abort (unwinding : session.handler = .panic) (events : List Event) (fault : Fatal) :
    (session.abort events fault).reply = some (.raised ("fatal: " ++ fault.message)) := by
  rw [abort, unwinding]

theorem session_abort (session : Session) (events : List Event) (fault : Fatal) :
    (session.abort events fault).session = session := by
  unfold abort
  cases session.handler <;> rfl

theorem Ends.reply {turn : Turn} {shown : α → Reply} {result : Except Fatal α}
    (ends : Ends turn shown result) (unwinding : turn.session.handler = .panic) :
    turn.reply = some (shownOrRaised shown result) := by
  cases result with
  | ok value =>
    obtain ⟨events, same⟩ := ends
    rw [same]
    rfl
  | error fault =>
    obtain ⟨events, same⟩ := ends
    rw [same, reply_abort unwinding]
    rfl

/-- A question goes to the resolver, which may remember more afterwards. -/
theorem ask_of_resolver {resolver : Resolver} (held : session.resolver = some resolver)
    (query : Query α) (shown : α → Reply) :
    (session.ask query shown).session =
        { session with resolver := some (query.ask resolver).value.2 } ∧
      Ends (session.ask query shown) shown (query.ask resolver).value.1 := by
  unfold ask
  rw [held]
  dsimp only
  cases (query.ask resolver).value.1 with
  | ok value => exact ⟨rfl, _, rfl⟩
  | error fault =>
    refine ⟨session_abort .., (query.ask resolver).events, ?_⟩
    dsimp only
    rw [session_abort]

theorem ask_of_none (empty : session.resolver = none) (query : Query α) (shown : α → Reply) :
    session.ask query shown = session.abort [] noResolver := by
  rw [ask, empty]

section Purposes

variable {access : Access} {reply : Reply} {made : Except Fatal Resolver} {fault : Fatal}
  {owner : LoadedModule} {config : Config}

theorem adopt_of_error (rejected : Resolver.new owner config = .error fault) :
    session.adopt owner config = session.answer [] (.failed fault) := by
  rw [adopt, rejected]

theorem adopt_of_held {fresh resolver : Resolver} (made : Resolver.new owner config = .ok fresh)
    (held : session.resolver = some resolver) :
    session.adopt owner config = session.answer [] (.flag false) := by
  simp only [adopt, made, held]

theorem adopt_of_empty {fresh : Resolver} (made : Resolver.new owner config = .ok fresh)
    (empty : session.resolver = none) :
    (session.adopt owner config).session = { session with resolver := some fresh } ∧
      (session.adopt owner config).reply = some (.flag true) := by
  simp only [adopt, made, empty]
  exact ⟨rfl, rfl⟩

/-- A resolver that is offered goes in where there is none. -/
def taken (session : Session) : Except Fatal Resolver → Session × Reply
  | .error fault => (session, .failed fault)
  | .ok fresh => ({ session with resolver := session.resolver.or (some fresh) },
      .flag session.resolver.isNone)

def Takes (session : Session) (turn : Turn) (made : Except Fatal Resolver) : Prop :=
  turn.session = (session.taken made).1 ∧ turn.reply = some (session.taken made).2

theorem takes_adopt (session : Session) (owner : LoadedModule) (config : Config) :
    Takes session (session.adopt owner config) (Resolver.new owner config) := by
  cases made : Resolver.new owner config with
  | error fault =>
    rw [adopt_of_error made]
    exact ⟨rfl, rfl⟩
  | ok fresh =>
    unfold Takes taken
    cases held : session.resolver with
    | none => exact adopt_of_empty made held
    | some resolver =>
      have same : (some resolver).or (some fresh) = session.resolver := held.symm
      rw [adopt_of_held made held]
      dsimp only
      rw [same]
      exact ⟨rfl, rfl⟩

theorem takes_install (session : Session) (name : String) (view : Image.View) (config : Config) :
    Takes session (session.install name view config) (do
      Resolver.new (← (LoadedModule.load name view config.opening).result) config) := by
  have result_eq : (LoadedModule.load name view config.opening).result =
      (LoadedModule.load name view config.opening).outcome.value := rfl
  rw [result_eq]
  cases loaded : (LoadedModule.load name view config.opening).outcome.value with
  | error fault =>
    simp only [install, loaded]
    exact ⟨rfl, rfl⟩
  | ok owner =>
    simp only [install, loaded]
    exact takes_adopt session owner config

theorem new_of_offers {fresh : Resolver} (offers : command.purpose = .offers (.ok fresh)) :
    Resolver.new fresh.owner fresh.config = .ok fresh := by
  have made : ∃ owner config, Resolver.new owner config = .ok fresh := by
    cases command with
    | adopt owner config => exact ⟨owner, config, Purpose.offers.inj offers⟩
    | install name view config =>
      obtain ⟨owner, _, made⟩ := bind_eq_ok.mp (Purpose.offers.inj offers)
      exact ⟨owner, config, made⟩
    | _ => cases offers
  obtain ⟨owner, config, made⟩ := made
  obtain ⟨_, rfl⟩ := Resolver.new_eq_ok_iff.mp made
  exact made

variable [Decoder]

theorem perform_of_asks (asks : command.purpose = .asks access) :
    session.perform command = session.ask access.question.query access.shown := by
  cases command <;> cases asks <;> rfl

theorem perform_of_names (names : command.purpose = .names) :
    session.perform command = session.ask (do return (← get).owner.name) .name := by
  cases command <;> cases names
  rfl

theorem perform_of_apart (unwinding : session.handler = .panic)
    (keeps : command ≠ .setHandler .exit) (apart : command.purpose = .apart reply) :
    (session.perform command).reply = some reply ∧
      (session.perform command).session.handler = .panic ∧
      (session.perform command).session.resolver = session.resolver := by
  cases command with
  | setHandler handler =>
    cases apart
    cases handler with
    | panic => exact ⟨rfl, rfl, rfl⟩
    | exit => exact absurd rfl keeps
  | startLog form =>
    cases apart
    rw [perform, startLog]
    cases session.log with
    | some started => exact ⟨rfl, unwinding, rfl⟩
    | none => exact ⟨rfl, unwinding, rfl⟩
  | report target fault context =>
    cases apart
    exact ⟨rfl, unwinding, rfl⟩
  | unwrap result =>
    cases apart
    cases result with
    | ok value => exact ⟨rfl, unwinding, rfl⟩
    | error fault =>
      rw [perform, session_abort]
      exact ⟨reply_abort unwinding _ _, unwinding, rfl⟩
  | _ => cases apart

theorem takes_of_offers (offers : command.purpose = .offers made) :
    Takes session (session.perform command) made := by
  cases command with
  | adopt owner config =>
    cases offers
    exact takes_adopt session owner config
  | install name view config =>
    cases offers
    exact takes_install session name view config
  | _ => cases offers

end Purposes

/-! ## What a command leaves -/

section Decoder

variable [Decoder]

theorem answer_put_of_tracks {fresh resolver : Resolver} (tracks : Tracks fresh resolver)
    (blank : ∀ s, fresh.remembered s = none) (question : Question) :
    (resolver.put question).answer = (fresh.put question).answer := by
  rw [Resolver.answer_put, Resolver.answer_put, tracks.ending_eq,
    (Tracks.of_blank blank).ending_eq]

/-- A session that raises its faults, with a resolver that goes by the one that stands. -/
structure Stands (standing : Option Resolver) (session : Session) : Prop where
  unwinding : session.handler = .panic
  made : ∀ fresh ∈ standing, Resolver.new fresh.owner fresh.config = .ok fresh
  follows : Option.Rel Tracks standing session.resolver

namespace Stands

variable {standing : Option Resolver} {fresh : Resolver}

theorem resolver_eq_none (stands : Stands none session) : session.resolver = none := by
  have follows := stands.follows
  cases held : session.resolver with
  | none => rfl
  | some resolver =>
    rw [held] at follows
    cases follows

theorem exists_resolver (stands : Stands (some fresh) session) :
    ∃ resolver, session.resolver = some resolver ∧ Tracks fresh resolver := by
  have follows := stands.follows
  cases held : session.resolver with
  | none =>
    rw [held] at follows
    cases follows
  | some resolver =>
    rw [held] at follows
    cases follows with
    | some tracks => exact ⟨resolver, rfl, tracks⟩

theorem blank (stands : Stands (some fresh) session) (s : Symbol) :
    fresh.remembered s = none := by
  obtain ⟨_, same⟩ := Resolver.new_eq_ok_iff.mp (stands.made fresh rfl)
  rw [same]

/-- A question is answered as the resolver that stands would answer it first of all. -/
theorem ends_ask (stands : Stands (some fresh) session) (access : Access) :
    Ends (session.ask access.question.query access.shown) access.shown
      (fresh.put access.question).answer := by
  obtain ⟨resolver, held, tracks⟩ := stands.exists_resolver
  rw [← answer_put_of_tracks tracks stands.blank]
  exact (ask_of_resolver held _ _).2

theorem stands_ask (stands : Stands (some fresh) session) (access : Access) :
    Stands (some fresh) (session.ask access.question.query access.shown).session := by
  obtain ⟨resolver, held, tracks⟩ := stands.exists_resolver
  rw [(ask_of_resolver held _ _).1]
  exact ⟨stands.unwinding, stands.made, .some (tracks.later access.question)⟩

theorem ends_names (stands : Stands (some fresh) session) (names : command.purpose = .names) :
    Ends (session.perform command) .name (.ok fresh.owner.name) ∧
      Stands (some fresh) (session.perform command).session := by
  obtain ⟨resolver, held, tracks⟩ := stands.exists_resolver
  obtain ⟨later, ends⟩ := ask_of_resolver held (do return (← get).owner.name) Reply.name
  rw [perform_of_names names, ← tracks.owner]
  refine ⟨ends, ?_⟩
  rw [later]
  exact ⟨stands.unwinding, stands.made, .some tracks⟩

/-- Without a resolver what needs one is a fault, and nothing else. -/
theorem perform_eq_abort (stands : Stands none session)
    (needs : command.purpose = .names ∨ ∃ access, command.purpose = .asks access) :
    session.perform command = session.abort [] noResolver := by
  cases needs with
  | inl names =>
    rw [perform_of_names names, ask_of_none stands.resolver_eq_none]
  | inr asks =>
    obtain ⟨access, asks⟩ := asks
    rw [perform_of_asks asks, ask_of_none stands.resolver_eq_none]

/-- **One command.** It is replied to as the resolver that stands has it, and the one that stands
then is the same, or the first. -/
theorem perform (stands : Stands standing session) (keeps : command ≠ .setHandler .exit) :
    (session.perform command).reply = some (command.purpose.reply standing) ∧
      Stands (standing.or command.purpose.offered?) (session.perform command).session := by
  cases purpose : command.purpose with
  | offers made =>
    obtain ⟨later, replied⟩ := @takes_of_offers session _ _ _ purpose
    rw [later, replied]
    cases made with
    | error fault =>
      refine ⟨rfl, ?_⟩
      rw [Purpose.offered?, Except.toOption, Option.or_none]
      exact stands
    | ok fresh =>
      cases standing with
      | none =>
        have empty := stands.resolver_eq_none
        simp only [taken, empty]
        refine ⟨rfl, stands.unwinding, ?_, .some (Tracks.of_blank ?_)⟩
        · rintro _ ⟨⟩
          exact new_of_offers purpose
        · obtain ⟨_, same⟩ := Resolver.new_eq_ok_iff.mp (new_of_offers purpose)
          rw [same]
          exact fun _ => rfl
      | some first =>
        obtain ⟨resolver, held, tracks⟩ := stands.exists_resolver
        simp only [taken, held]
        exact ⟨rfl, stands.unwinding, stands.made, .some tracks⟩
  | names =>
    rw [Purpose.offered?, Option.or_none]
    cases standing with
    | none =>
      rw [stands.perform_eq_abort (.inl purpose), session_abort]
      exact ⟨reply_abort stands.unwinding _ _, stands⟩
    | some fresh =>
      obtain ⟨ends, later⟩ := stands.ends_names purpose
      exact ⟨ends.reply later.unwinding, later⟩
  | asks access =>
    rw [Purpose.offered?, Option.or_none]
    cases standing with
    | none =>
      rw [stands.perform_eq_abort (.inr ⟨access, purpose⟩), session_abort]
      exact ⟨reply_abort stands.unwinding _ _, stands⟩
    | some fresh =>
      have later := stands.stands_ask access
      rw [perform_of_asks purpose]
      exact ⟨(stands.ends_ask access).reply later.unwinding, later⟩
  | apart reply =>
    obtain ⟨replied, unwinding, resolver⟩ := perform_of_apart stands.unwinding keeps purpose
    rw [Purpose.offered?, Option.or_none]
    exact ⟨replied, unwinding, stands.made, resolver ▸ stands.follows⟩

/-! ## Runs -/

variable {commands : List Command}

theorem run (stands : Stands standing session) (keeps : .setHandler .exit ∉ commands) :
    (session.run commands).1 = repliesFrom standing commands ∧ (session.run commands).2.2 = 0 := by
  induction commands generalizing standing session with
  | nil => exact ⟨rfl, rfl⟩
  | cons command rest ih =>
    obtain ⟨other, keeps⟩ := List.ne_and_not_mem_of_not_mem_cons keeps
    obtain ⟨replied, later⟩ := stands.perform other.symm
    obtain ⟨replies, code⟩ := ih later keeps
    rw [Session.run, replied]
    exact ⟨congrArg _ replies, code⟩

theorem after (stands : Stands standing session) (keeps : .setHandler .exit ∉ commands) :
    Stands (standing.or (firstOffered? commands)) (session.after commands) := by
  induction commands generalizing standing session with
  | nil =>
    rw [firstOffered?, List.findSome?_nil, Option.or_none]
    exact stands
  | cons command rest ih =>
    obtain ⟨other, keeps⟩ := List.ne_and_not_mem_of_not_mem_cons keeps
    rw [firstOffered?_cons, ← Option.or_assoc]
    exact ih (stands.perform other.symm).2 keeps

end Stands

/-- What holds of a session behind commands that it began without a resolver. -/
structure KeepsFirst (start : Session) (earlier : List Command) : Prop where
  replies : (start.run earlier).1 = repliesFrom none earlier
  lasts : (start.run earlier).2.2 = 0
  continues : ∀ later, .setHandler .exit ∉ later → (start.run (earlier ++ later)).1 =
    (start.run earlier).1 ++ ((start.after earlier).run later).1
  /-- Without an offer that can be taken there is no resolver. -/
  empty : firstOffered? earlier = none → (start.after earlier).resolver = none
  /-- The first offer stays, for the module and the configuration that it was made for. -/
  kept : ∀ fresh, firstOffered? earlier = some fresh →
    Resolver.new fresh.owner fresh.config = .ok fresh ∧
    ∃ resolver, (start.after earlier).resolver = some resolver ∧
      resolver.owner = fresh.owner ∧ resolver.config = fresh.config
  /-- A configuration that cannot be used is a fault at any time and changes nothing. -/
  rejected : ∀ owner config fault, config.validate = .error fault →
    (start.after earlier).perform (.adopt owner config) =
      (start.after earlier).answer [] (.failed (.invalidConfig fault))
  first : firstOffered? earlier = none → ∀ owner config, config.validate = .ok () →
    ((start.after earlier).perform (.adopt owner config)).reply = some (.flag true) ∧
    ((start.after earlier).perform (.adopt owner config)).session =
      { start.after earlier with resolver := some { owner, config } }
  later : ∀ fresh, firstOffered? earlier = some fresh → ∀ owner config, config.validate = .ok () →
    (start.after earlier).perform (.adopt owner config) =
      (start.after earlier).answer [] (.flag false)
  unanswered : firstOffered? earlier = none → ∀ command,
    (command.purpose = .names ∨ ∃ access, command.purpose = .asks access) →
    (start.after earlier).perform command = (start.after earlier).abort [] noResolver ∧
    ((start.after earlier).perform command).session = start.after earlier
  named : ∀ fresh, firstOffered? earlier = some fresh → ∀ command, command.purpose = .names →
    Ends ((start.after earlier).perform command) .name (.ok fresh.owner.name)
  answered : ∀ fresh, firstOffered? earlier = some fresh →
    ∀ command access, command.purpose = .asks access →
    Ends ((start.after earlier).perform command) access.shown (fresh.put access.question).answer
  /-- A fault that is raised makes no difference to what comes after it. -/
  raised : ∀ command message,
    ((start.after earlier).perform command).reply = some (.raised message) →
    ∀ later, .setHandler .exit ∉ later →
      (((start.after earlier).perform command).session.run later).1 =
        ((start.after earlier).run later).1

theorem offered?_of_raised {standing : Option Resolver} {purpose : Purpose} {message : String}
    (raised : purpose.reply standing = .raised message) : purpose.offered? = none := by
  cases purpose with
  | offers made => cases made <;> cases raised
  | _ => rfl

/-- **The first valid offer wins.** Whatever a session without a resolver has been told and asked,
as long as its faults are raised, the first resolver that could be made is the one it keeps. -/
theorem after_keepsFirst (start : Session) (earlier : List Command)
    (blank : start.resolver = none) (unwinding : start.handler = .panic)
    (keeps : .setHandler .exit ∉ earlier) : KeepsFirst start earlier := by
  have begins : Stands none start := by
    refine ⟨unwinding, nofun, ?_⟩
    rw [blank]
    exact .none
  have stands : Stands (firstOffered? earlier) (start.after earlier) := begins.after keeps
  have new_ok : ∀ {owner : LoadedModule} {config : Config}, config.validate = .ok () →
      Resolver.new owner config = .ok { owner, config } :=
    fun valid => Resolver.new_eq_ok_iff.mpr ⟨valid, rfl⟩
  refine {
    replies := (begins.run keeps).1
    lasts := (begins.run keeps).2
    continues := fun later keepsLater => ?_
    empty := fun none_taken => ?_
    kept := fun fresh first => ⟨stands.made fresh first, ?_⟩
    rejected := fun owner config fault invalid => ?_
    first := fun none_taken owner config valid => ?_
    later := fun fresh first owner config valid => ?_
    unanswered := fun none_taken command needs => ?_
    named := fun fresh first command names => ?_
    answered := fun fresh first command access asks => ?_
    raised := fun command message raised later keepsLater => ?_ }
  · have whole := begins.run (List.not_mem_append keeps keepsLater)
    rw [whole.1, (begins.run keeps).1, (stands.run keepsLater).1, repliesFrom_append]
    rfl
  · rw [none_taken] at stands
    exact stands.resolver_eq_none
  · rw [first] at stands
    obtain ⟨resolver, held, tracks⟩ := stands.exists_resolver
    exact ⟨resolver, held, tracks.owner, tracks.config⟩
  · refine adopt_of_error ?_
    rw [Resolver.new, invalid]
  · rw [none_taken] at stands
    exact (adopt_of_empty (new_ok valid) stands.resolver_eq_none).symm
  · rw [first] at stands
    obtain ⟨resolver, held, _⟩ := stands.exists_resolver
    exact adopt_of_held (new_ok valid) held
  · rw [none_taken] at stands
    have same := stands.perform_eq_abort needs
    exact ⟨same, by rw [same, session_abort]⟩
  · rw [first] at stands
    exact (stands.ends_names names).1
  · rw [first] at stands
    rw [perform_of_asks asks]
    exact stands.ends_ask access
  · have other : command ≠ .setHandler .exit := by
      rintro rfl
      cases raised
    obtain ⟨replied, later_stands⟩ := stands.perform other
    rw [raised] at replied
    rw [offered?_of_raised (Option.some.inj replied).symm, Option.or_none] at later_stands
    rw [(later_stands.run keepsLater).1, (stands.run keepsLater).1]

end Decoder

/-- A question too early, a configuration that cannot be used, and two that can. -/
def eventful (owner : LoadedModule) : List Command :=
  [.globals, .adopt owner { parser := { maxInstructions := 0 } }, .adopt owner Specimen.settings,
    .cvar, .adopt owner {}]

theorem eventful_keepsFirst : ∃ owner,
    (LoadedModule.load "host.exe" Specimen.complete {}).result = .ok owner ∧
      firstOffered? (eventful owner) = some { owner, config := Specimen.settings } ∧
      KeepsFirst { handler := .panic } (eventful owner) := by
  have computed : (LoadedModule.openInOrder? "host.exe" Specimen.complete {}).isSome = true := by
    decide +kernel
  obtain ⟨owner, found⟩ := Option.isSome_iff_exists.mp computed
  exact ⟨owner, LoadedModule.load_of_openInOrder? found, rfl,
    after_keepsFirst { handler := .panic } (eventful owner) rfl rfl (by simp [eventful])⟩

end Session

end Landmark.Host
