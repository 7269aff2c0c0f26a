import Mathlib.Algebra.Ring.Nat
import TokenClient.Command.Shell

/-! Runs as dialogues. A route lists, stage by stage, what a computation reads and asks; a walk
along a route ends at the first stage that fails, and no call is made after it. Every operation of
the client follows a route, and computations in sequence follow their routes in sequence. -/
namespace TokenClient

structure Exchange where
  call : Call
  reply : Reply

namespace Node

/-- The exchanges behind calls that were made after those in `past`. -/
def exchanges (node : Node) (past : List Call) : List Call → List Exchange
  | [] => []
  | call :: rest => ⟨call, (node past call).reply⟩ :: node.exchanges (past ++ [call]) rest

theorem exchanges_append (node : Node) (past first second : List Call) :
    node.exchanges past (first ++ second) =
      node.exchanges past first ++ node.exchanges (past ++ first) second := by
  induction first generalizing past with
  | nil => simp [exchanges]
  | cons call rest ih => simp [exchanges, ih]

@[simp] theorem exchanges_calls (node : Node) (past calls : List Call) :
    (node.exchanges past calls).map Exchange.call = calls := by
  induction calls generalizing past with
  | nil => rfl
  | cons call rest ih => simp [exchanges, ih]

theorem reply_of_mem {node : Node} {past calls : List Call} {exchange : Exchange}
    (member : exchange ∈ node.exchanges past calls) :
    ∃ earlier, exchange.reply = (node earlier exchange.call).reply := by
  induction calls generalizing past with
  | nil => contradiction
  | cons call rest ih =>
    rcases List.mem_cons.mp member with rfl | later
    · exact ⟨past, rfl⟩
    · exact ih later

/-- An exchange in its place: what came before is what had been asked by then. -/
theorem exchanges_place {node : Node} {past calls : List Call} {before after : List Exchange}
    {exchange : Exchange} (place : node.exchanges past calls = before ++ exchange :: after) :
    node.exchanges past (before.map Exchange.call) = before ∧
      exchange.reply = (node (past ++ before.map Exchange.call) exchange.call).reply := by
  induction before generalizing past calls with
  | nil =>
    cases calls with
    | nil => contradiction
    | cons call rest =>
      obtain ⟨rfl, _⟩ := List.cons.inj place
      simp [exchanges]
  | cons first before ih =>
    cases calls with
    | nil => contradiction
    | cons call rest =>
      obtain ⟨rfl, later⟩ := List.cons.inj place
      obtain ⟨earlier, reply⟩ := ih later
      simpa [exchanges, earlier] using reply

end Node

def Wire.after (wire : Wire) (node : Node) (call : Call) : Wire :=
  ⟨wire.calls ++ [call], wire.clock + (node wire.calls call).delay⟩

/-- The wire after these calls, one behind the other. -/
def Wire.afterAll (wire : Wire) (node : Node) : List Call → Wire
  | [] => wire
  | call :: rest => (wire.after node call).afterAll node rest

namespace Wire

@[simp] theorem calls_afterAll (wire : Wire) (node : Node) (made : List Call) :
    (wire.afterAll node made).calls = wire.calls ++ made := by
  induction made generalizing wire with
  | nil => simp [afterAll]
  | cons call rest ih => simp [afterAll, ih, after]

theorem afterAll_append (wire : Wire) (node : Node) (first second : List Call) :
    wire.afterAll node (first ++ second) = (wire.afterAll node first).afterAll node second := by
  induction first generalizing wire with
  | nil => rfl
  | cons call rest ih => exact ih _

end Wire

/-- What a computation does next: read something at hand, or make a call and read the reply. Each
stage holds the value that was read where the run went on. -/
inductive Stage : Type 1 where
  | read {α : Type} (reading : Except Failure α) (value : α)
  | ask {α : Type} (call : Call) (reading : Reply → Except Failure α) (answer : α)

def Stage.call? : Stage → Option Call
  | .read _ _ => none
  | .ask call _ _ => some call

abbrev Route := List Stage

def Route.calls (route : Route) : List Call := route.filterMap Stage.call?

namespace Route

@[simp] theorem calls_nil : Route.calls [] = [] := rfl

@[simp] theorem calls_read (reading : Except Failure α) (value : α) (rest : Route) :
    Route.calls (.read reading value :: rest) = rest.calls := rfl

@[simp] theorem calls_ask (call : Call) (reading : Reply → Except Failure α) (answer : α)
    (rest : Route) : Route.calls (.ask call reading answer :: rest) = call :: rest.calls := rfl

@[simp] theorem calls_append (first second : Route) :
    Route.calls (first ++ second) = first.calls ++ second.calls := List.filterMap_append

end Route

/-- The exchanges of a run along a route, and the failure that ended it, if one did. -/
inductive Walk : Route → List Exchange → Option Failure → Prop where
  | arrived : Walk [] [] none
  | readOn {α : Type} {reading : Except Failure α} {value : α} :
      reading = .ok value → Walk rest made ending → Walk (.read reading value :: rest) made ending
  | unreadable {α : Type} {reading : Except Failure α} {value : α} {failure : Failure} :
      reading = .error failure → Walk (.read reading value :: rest) [] (some failure)
  | answered {α : Type} {reading : Reply → Except Failure α} {answer : α} :
      reading reply = .ok answer → Walk rest made ending →
      Walk (.ask call reading answer :: rest) (⟨call, reply⟩ :: made) ending
  | refused {α : Type} {reading : Reply → Except Failure α} {answer : α} {failure : Failure} :
      reading reply = .error failure →
      Walk (.ask call reading answer :: rest) [⟨call, reply⟩] (some failure)

namespace Walk

variable {α : Type} {route first second rest : Route} {made more : List Exchange}
  {failure : Failure} {ending : Option Failure}

@[simp] theorem nil_iff : Walk [] made ending ↔ made = [] ∧ ending = none := by
  constructor
  · intro walk; cases walk; exact ⟨rfl, rfl⟩
  · rintro ⟨rfl, rfl⟩; exact .arrived

@[simp] theorem read_none_iff {reading : Except Failure α} {value : α} :
    Walk (.read reading value :: rest) made none ↔
      reading = .ok value ∧ Walk rest made none := by
  constructor
  · intro walk; cases walk with | readOn read walk => exact ⟨read, walk⟩
  · rintro ⟨read, walk⟩; exact .readOn read walk

@[simp] theorem ask_none_iff {call : Call} {reading : Reply → Except Failure α} {answer : α} :
    Walk (.ask call reading answer :: rest) made none ↔
      ∃ reply made', made = ⟨call, reply⟩ :: made' ∧ reading reply = .ok answer ∧
        Walk rest made' none := by
  constructor
  · intro walk
    cases walk with | answered read walk => exact ⟨_, _, rfl, read, walk⟩
  · rintro ⟨reply, made', rfl, read, walk⟩; exact .answered read walk

theorem append (walk : Walk first made none) (later : Walk second more ending) :
    Walk (first ++ second) (made ++ more) ending := by
  generalize arrived : (none : Option Failure) = halt at walk
  induction walk with
  | arrived => exact later
  | readOn read _ ih => exact .readOn read (ih arrived)
  | answered read _ ih => exact .answered read (ih arrived)
  | unreadable _ | refused _ => contradiction

/-- Where a walk ends early, what its route would have gone on with does not matter. -/
theorem extend (walk : Walk first made (some failure)) :
    Walk (first ++ second) made (some failure) := by
  generalize halted : some failure = halt at walk
  induction walk with
  | arrived => contradiction
  | readOn read _ ih => exact .readOn read (ih halted)
  | answered read _ ih => exact .answered read (ih halted)
  | unreadable read => exact .unreadable read
  | refused read => exact .refused read

/-- A walk along two routes in sequence ends in the first one or goes on into the second. -/
theorem split (walk : Walk (first ++ second) made ending) :
    (∃ failure, ending = some failure ∧ Walk first made (some failure)) ∨
    ∃ before after, made = before ++ after ∧ Walk first before none ∧
      Walk second after ending := by
  induction first generalizing made with
  | nil => exact .inr ⟨[], made, rfl, .arrived, walk⟩
  | cons stage first ih =>
    cases walk with
    | unreadable read => exact .inl ⟨_, rfl, .unreadable read⟩
    | refused read => exact .inl ⟨_, rfl, .refused read⟩
    | readOn read walk =>
      rcases ih walk with ⟨failure, ended, walk⟩ | ⟨before, after, rfl, walk, later⟩
      · exact .inl ⟨failure, ended, .readOn read walk⟩
      · exact .inr ⟨before, after, rfl, .readOn read walk, later⟩
    | answered read walk =>
      rcases ih walk with ⟨failure, ended, walk⟩ | ⟨before, after, rfl, walk, later⟩
      · exact .inl ⟨failure, ended, .answered read walk⟩
      · exact .inr ⟨_ :: before, after, rfl, .answered read walk, later⟩

theorem append_none_iff :
    Walk (first ++ second) made none ↔
      ∃ before after, made = before ++ after ∧ Walk first before none ∧ Walk second after none := by
  constructor
  · intro walk
    rcases walk.split with ⟨failure, ended, _⟩ | parts
    · contradiction
    · exact parts
  · rintro ⟨before, after, rfl, walk, later⟩
    exact walk.append later

/-- The calls of a walk are the first calls of its route. -/
theorem calls_prefix (walk : Walk route made ending) :
    made.map Exchange.call <+: route.calls := by
  induction walk with
  | arrived => exact List.nil_prefix
  | readOn _ _ ih => exact ih
  | unreadable _ => exact List.nil_prefix
  | answered _ _ ih => simpa using ih
  | refused _ => simp

/-- A walk that reaches the end of its route has made all of its calls. -/
theorem calls_of_arrived (walk : Walk route made none) :
    made.map Exchange.call = route.calls := by
  generalize arrived : (none : Option Failure) = halt at walk
  induction walk with
  | arrived => rfl
  | readOn _ _ ih => exact ih arrived
  | answered _ _ ih => simpa using ih arrived
  | unreadable _ | refused _ => contradiction

theorem passed {reading : Except Failure α} {value found : α}
    (walk : Walk (.read reading value :: rest) made ending) (reads : reading = .ok found) :
    value = found ∧ Walk rest made ending := by
  cases walk with
  | readOn read walk =>
    rw [reads] at read
    exact ⟨(Except.ok.inj read).symm, walk⟩
  | unreadable read =>
    rw [reads] at read
    contradiction

theorem unread {reading : Except Failure α} {value : α}
    (walk : Walk (.read reading value :: rest) made ending) (fails : reading = .error failure) :
    made = [] ∧ ending = some failure := by
  cases walk with
  | readOn read _ =>
    rw [fails] at read
    contradiction
  | unreadable read =>
    rw [fails] at read
    exact ⟨rfl, congrArg some (Except.error.inj read).symm⟩

theorem asked {node : Node} {past calls : List Call} {call : Call}
    {reading : Reply → Except Failure α} {answer : α}
    (walk : Walk (.ask call reading answer :: rest) (node.exchanges past calls) ending) :
    ∃ later, calls = call :: later := by
  cases calls with
  | nil => cases walk
  | cons first later =>
    have called := walk.calls_prefix
    rw [Node.exchanges_calls, Route.calls_ask, List.cons_prefix_cons] at called
    exact ⟨later, by rw [called.1]⟩

theorem heard {node : Node} {past calls : List Call} {call : Call}
    {reading : Reply → Except Failure α} {answer found : α}
    (walk : Walk (.ask call reading answer :: rest) (node.exchanges past calls) ending)
    (reads : reading (node past call).reply = .ok found) :
    ∃ later, calls = call :: later ∧ answer = found ∧
      Walk rest (node.exchanges (past ++ [call]) later) ending := by
  obtain ⟨later, rfl⟩ := walk.asked
  generalize shape : node.exchanges past (call :: later) = made at walk
  cases walk with
  | answered read walk =>
    obtain ⟨same, more⟩ := List.cons.inj shape
    cases same
    rw [reads] at read
    refine ⟨later, rfl, (Except.ok.inj read).symm, ?_⟩
    rwa [more]
  | refused read =>
    obtain ⟨same, _⟩ := List.cons.inj shape
    cases same
    rw [reads] at read
    contradiction

theorem halted {node : Node} {past calls : List Call} {call : Call}
    {reading : Reply → Except Failure α} {answer : α}
    (walk : Walk (.ask call reading answer :: rest) (node.exchanges past calls) ending)
    (fails : reading (node past call).reply = .error failure) :
    calls = [call] ∧ ending = some failure := by
  obtain ⟨later, rfl⟩ := walk.asked
  generalize shape : node.exchanges past (call :: later) = made at walk
  cases walk with
  | answered read walk =>
    obtain ⟨same, _⟩ := List.cons.inj shape
    cases same
    rw [fails] at read
    contradiction
  | refused read =>
    obtain ⟨same, last⟩ := List.cons.inj shape
    cases same
    rw [fails] at read
    cases later with
    | nil => exact ⟨rfl, congrArg some (Except.error.inj read).symm⟩
    | cons call later => contradiction

end Walk

/-- How a computation ends that has made the given exchanges: where it succeeds, it has walked a
whole route, and its result is what the readings on the route determine. -/
inductive Ends {α γ : Type} (route : γ → Route) (result : γ → α) (made : List Exchange) :
    Except Failure α → Prop where
  | ok (g : γ) : Walk (route g) made none → Ends route result made (.ok (result g))
  | error (g : γ) {failure : Failure} : Walk (route g) made (some failure) →
      Ends route result made (.error failure)

namespace Ends

variable {α γ δ : Type} {route : γ → Route} {result : γ → α} {made : List Exchange}
  {outcome : Except Failure α}

theorem map {route' : δ → Route} {result' : δ → α} (ends : Ends route result made outcome)
    (rename : γ → δ)
    (walks : ∀ g ending, Walk (route g) made ending → Walk (route' (rename g)) made' ending)
    (results : ∀ g, result g = result' (rename g)) : Ends route' result' made' outcome := by
  cases ends with
  | ok g walk => rw [results g]; exact .ok _ (walks g _ walk)
  | error g walk => exact .error _ (walks g _ walk)

theorem after {first : γ → Route} {next : γ → δ → Route} {last : γ → δ → α} {g : γ}
    {more : List Exchange} (ends : Ends (next g) (last g) more outcome)
    (walk : Walk (first g) made none) :
    Ends (fun p : γ × δ => first p.1 ++ next p.1 p.2) (fun p => last p.1 p.2) (made ++ more)
      outcome := by
  cases ends with
  | ok d later =>
    refine Ends.ok (g, d) ?_
    exact walk.append later
  | error d later =>
    refine Ends.error (g, d) ?_
    exact walk.append later

theorem walk (ends : Ends route result made outcome) :
    ∃ g ending, Walk (route g) made ending ∧
      (ending = none → outcome = .ok (result g)) ∧
      ∀ failure, ending = some failure → outcome = .error failure := by
  cases ends with
  | ok g walk => exact ⟨g, none, walk, fun _ => rfl, nofun⟩
  | error g walk => exact ⟨g, _, walk, nofun, fun _ same => by cases same; rfl⟩

end Ends

section Following

variable {σ α β γ δ : Type} {calls : σ → List Call}

/-- Whatever the node replies, the computation walks along a route of this family. `calls` tells
the calls made so far from the state that the computation works on. -/
def Following (calls : σ → List Call) (x : Node → σ → Except Failure α × σ) (route : γ → Route)
    (result : γ → α) : Prop :=
  ∀ node state, ∃ made, calls (x node state).2 = calls state ++ made ∧
    Ends route result (node.exchanges (calls state) made) (x node state).1

theorem Following.sequence [fallback : Nonempty δ] {x : Node → σ → Except Failure α × σ}
    {f : α → Node → σ → Except Failure β × σ} {y : Node → σ → Except Failure β × σ}
    {route : γ → Route} {result : γ → α} {next : γ → δ → Route} {last : γ → δ → β}
    (first : Following calls x route result)
    (second : ∀ g, Following calls (f (result g)) (next g) (last g))
    (inTurn : ∀ node state, y node state = match x node state with
      | (.ok a, state) => f a node state
      | (.error failure, state) => (.error failure, state)) :
    Following calls y (fun p : γ × δ => route p.1 ++ next p.1 p.2) fun p => last p.1 p.2 := by
  intro node state
  obtain ⟨any⟩ := fallback
  obtain ⟨made, extended, ends⟩ := first node state
  rw [inTurn node state]
  rcases ran : x node state with ⟨outcome, middle⟩
  rw [ran] at extended ends
  cases ends with
  | error g walk => exact ⟨made, extended, .error (g, any) walk.extend⟩
  | ok g walk =>
    obtain ⟨more, later, ends⟩ := second g node middle
    refine ⟨made ++ more, by rw [later, extended, List.append_assoc], ?_⟩
    rw [Node.exchanges_append, ← extended]
    exact ends.after walk

theorem Following.reindex {x : Node → σ → Except Failure α × σ} {route : γ → Route}
    {result : γ → α} {route' : δ → Route} {result' : δ → α}
    (follows : Following calls x route result) (rename : γ → δ)
    (routes : ∀ g, route g = route' (rename g)) (results : ∀ g, result g = result' (rename g)) :
    Following calls x route' result' := by
  intro node state
  obtain ⟨made, extended, ends⟩ := follows node state
  exact ⟨made, extended, ends.map rename (fun g _ walk => routes g ▸ walk) results⟩

end Following

namespace Client

variable {α β γ δ : Type}

def Follows (x : Client α) (route : γ → Route) (result : γ → α) : Prop :=
  Following Wire.calls x route result

theorem bind_ok {x : Client α} {f : α → Client β} {node : Node} {wire wire' : Wire} {a : α}
    (ran : x node wire = (.ok a, wire')) : (x >>= f) node wire = f a node wire' := by
  change Client.bind x f node wire = _
  rw [Client.bind, ran]

theorem follows_pure (a : α) : (pure a : Client α).Follows (fun _ : Unit => []) fun _ => a :=
  fun _ wire => ⟨[], (List.append_nil wire.calls).symm, .ok () .arrived⟩

theorem follows_read [fallback : Nonempty α] (reading : Except Failure α) :
    (liftM reading : Client α).Follows (fun a => [.read reading a]) id := by
  intro node wire
  obtain ⟨any⟩ := fallback
  refine ⟨[], (List.append_nil wire.calls).symm, ?_⟩
  change Ends _ _ _ reading
  cases reading with
  | ok a => exact .ok a (.readOn rfl .arrived)
  | error failure => exact .error any (.unreadable rfl)

/-- A computation that makes one call and then only reads the reply. -/
theorem follows_ask [fallback : Nonempty α] {x : Client β} {call : Call}
    {reading : Reply → Except Failure α} {result : α → β}
    (asks : ∀ node wire, x node wire =
      ((reading (node wire.calls call).reply).map result, wire.after node call)) :
    x.Follows (fun a => [.ask call reading a]) result := by
  intro node wire
  obtain ⟨any⟩ := fallback
  rw [asks node wire]
  refine ⟨[call], rfl, ?_⟩
  cases read : reading (node wire.calls call).reply with
  | ok a => exact .ok a (.answered read .arrived)
  | error failure => exact .error any (.refused read)

theorem follows_bind [Nonempty δ] {x : Client α} {f : α → Client β} {route : γ → Route}
    {result : γ → α} {next : γ → δ → Route} {last : γ → δ → β} (first : x.Follows route result)
    (second : ∀ g, (f (result g)).Follows (next g) (last g)) :
    (x >>= f).Follows (fun p : γ × δ => route p.1 ++ next p.1 p.2) fun p => last p.1 p.2 :=
  Following.sequence first second fun node wire => by
    change Client.bind x f node wire = _
    rw [Client.bind]
    rcases x node wire with ⟨_ | _, _⟩ <;> rfl

theorem follows_reindex {x : Client α} {route : γ → Route} {result : γ → α} {route' : δ → Route}
    {result' : δ → α} (follows : x.Follows route result) (rename : γ → δ)
    (routes : ∀ g, route g = route' (rename g)) (results : ∀ g, result g = result' (rename g)) :
    x.Follows route' result' :=
  Following.reindex follows rename routes results

end Client

namespace Shell

variable {α β γ δ : Type}

def Follows (x : Shell α) (route : γ → Route) (result : γ → α) : Prop :=
  Following (fun desk : Desk => desk.wire.calls) x route result

theorem follows_pure (a : α) : (pure a : Shell α).Follows (fun _ : Unit => []) fun _ => a :=
  fun _ desk => ⟨[], (List.append_nil desk.wire.calls).symm, .ok () .arrived⟩

theorem follows_print (lines : List String) :
    (print lines).Follows (fun _ : Unit => []) fun _ => () :=
  fun _ desk => ⟨[], (List.append_nil desk.wire.calls).symm, .ok () .arrived⟩

theorem follows_talk {x : Client α} {route : γ → Route} {result : γ → α}
    (follows : x.Follows route result) : (liftM x : Shell α).Follows route result :=
  fun node desk => follows node desk.wire

section Talking

variable {x : Client α} {f : α → Shell β} {node : Node} {desk : Desk} {wire : Wire}

theorem talk_eq : (liftM x : Shell α) node desk =
    ((x node desk.wire).1, { desk with wire := (x node desk.wire).2 }) := rfl

theorem talk_ok {a : α} (ran : x node desk.wire = (.ok a, wire)) :
    ((liftM x : Shell α) >>= f) node desk = f a node { desk with wire } := by
  change Shell.bind (liftM x) f node desk = _
  rw [Shell.bind, talk_eq, ran]

theorem talk_error {failure : Failure} (ran : x node desk.wire = (.error failure, wire)) :
    ((liftM x : Shell α) >>= f) node desk = (.error failure, { desk with wire }) := by
  change Shell.bind (liftM x) f node desk = _
  rw [Shell.bind, talk_eq, ran]

end Talking

theorem follows_bind [Nonempty δ] {x : Shell α} {f : α → Shell β} {route : γ → Route}
    {result : γ → α} {next : γ → δ → Route} {last : γ → δ → β} (first : x.Follows route result)
    (second : ∀ g, (f (result g)).Follows (next g) (last g)) :
    (x >>= f).Follows (fun p : γ × δ => route p.1 ++ next p.1 p.2) fun p => last p.1 p.2 :=
  Following.sequence first second fun node desk => by
    change Shell.bind x f node desk = _
    rw [Shell.bind]
    rcases x node desk with ⟨_ | _, _⟩ <;> rfl

theorem follows_reindex {x : Shell α} {route : γ → Route} {result : γ → α} {route' : δ → Route}
    {result' : δ → α} (follows : x.Follows route result) (rename : γ → δ)
    (routes : ∀ g, route g = route' (rename g)) (results : ∀ g, result g = result' (rename g)) :
    x.Follows route' result' :=
  Following.reindex follows rename routes results

end Shell
end TokenClient
