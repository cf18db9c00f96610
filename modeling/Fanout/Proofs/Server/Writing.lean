import Fanout.Server.Writer
import Mathlib.Logic.Function.Iterate
import Mathlib.Logic.Relation
import Mathlib.Tactic.SplitIfs

/-!
A connection between its writer, those who queue frames and those who close it. The writer and each
call to close take their steps one by one, and between any two of them everybody else may go on.
-/
namespace Fanout

inductive WriterMoment where
  | choosing
  /-- The connection was not cancelled. -/
  | looking
  | taken (m : Outgoing)
  /-- It has asked for the gate. -/
  | queued (m : Outgoing)
  | holding (m : Outgoing)
  /-- With the gate in hand, the connection was not closed. -/
  | tested (m : Outgoing)
  | sending (m : Outgoing) (deadline : Nat)
  /-- The send is over and the gate still in hand. -/
  | ended (r : SendResult)
  | released (r : SendResult)
  /-- With the gate in hand, the connection was closed. -/
  | refused
  /-- A bad end has cost the connection. -/
  | leaving (e : WriterExit)
  | exited (e : WriterExit)
  deriving DecidableEq

def WriterMoment.begun : WriterMoment → List Outgoing
  | .tested m => [m]
  | _ => []

/-- A writer that others can come in between anywhere. -/
structure Scribe where
  writeMs : Nat
  pingMs : Option Nat
  nextPing : Nat
  moment : WriterMoment := .choosing
  deriving DecidableEq

namespace Scribe

def start (writeMs : Nat) (pingMs : Option Nat) (now : Nat) : Scribe :=
  { writeMs, pingMs, nextPing := now + pingMs.getD 0 }

/-- The next step. If a send is under way it ends with `r`. -/
def advance (s : Scribe) (c : Connection) (now : Nat) (r : SendResult) : Scribe × Connection :=
  match s.moment with
  | .choosing => ({ s with moment := if c.cancelled then .exited .closed else .looking }, c)
  | .looking =>
    if c.queue.closed then ({ s with moment := .exited .closed }, c)
    else match c.popFrame with
      | (some frame, c) => ({ s with moment := .taken (.text frame) }, c)
      | (none, _) =>
        match s.pingMs with
        | some period =>
          if s.nextPing ≤ now then
            ({ s with
              moment := .taken (.ping (c.age now * 1000))
              nextPing := s.nextPing + period }, c)
          else ({ s with moment := .choosing }, c)
        | none => ({ s with moment := .choosing }, c)
  | .taken m => ({ s with moment := .queued m }, { c with gate := c.gate.request .writer })
  | .queued m => if c.gate.heldBy .writer then ({ s with moment := .holding m }, c) else (s, c)
  | .holding m => ({ s with moment := if c.isClosed then .refused else .tested m }, c)
  | .tested m => ({ s with moment := .sending m (now + s.writeMs) }, c)
  | .sending _ _ =>
    ({ s with moment := .ended r },
      match r with
      | .sent | .failed => c
      | .timedOut =>
        { c with telemetry := c.telemetry.log (.warn "write timed out"
            [("conn_id", c.id.text), ("timeout_ms", String.ofList (Json.natDigits s.writeMs))]) })
  | .ended r => ({ s with moment := .released r }, { c with gate := c.gate.release })
  | .released .sent => ({ s with moment := .choosing }, c)
  | .released .failed => ({ s with moment := .leaving .sendFailed }, c.cancel)
  | .released .timedOut => ({ s with moment := .leaving .timedOut }, c.cancel)
  | .refused => ({ s with moment := .exited .closed }, { c with gate := c.gate.release })
  | .leaving e => ({ s with moment := .exited e }, c)
  | .exited _ => (s, c)

/-- A writer at one of the moments at which its whole operations begin and end. -/
def ofWriter (w : Writer) : Scribe where
  writeMs := w.writeMs
  pingMs := w.pingMs
  nextPing := w.nextPing
  moment :=
    match w.phase with
    | .choosing => .choosing
    | .queued m => .queued m
    | .sending m deadline => .sending m deadline
    | .exited e => .exited e

variable {w w' : Writer} {c c' : Connection} {now : Nat}

/-- Steps that nobody comes between add up to `choose`. -/
theorem advance_eq_choose (r : SendResult) (h : w.choose c now = some (w', c')) :
    ∃ n, (fun x : Scribe × Connection => x.1.advance x.2 now r)^[n] (ofWriter w, c) =
      (ofWriter w', c') := by
  unfold Writer.choose at h
  split at h
  · rename_i hp
    cases hcancelled : c.cancelled with
    | true =>
      simp only [hcancelled, Bool.true_or, if_true] at h
      obtain ⟨rfl, rfl⟩ := Prod.mk.inj (Option.some.inj h)
      exact ⟨1, by simp [advance, ofWriter, hp, hcancelled]⟩
    | false =>
      cases hclosed : c.queue.closed with
      | true =>
        simp only [hcancelled, hclosed, Bool.or_true, if_true] at h
        obtain ⟨rfl, rfl⟩ := Prod.mk.inj (Option.some.inj h)
        exact ⟨2, by simp [advance, ofWriter, hp, hcancelled, hclosed]⟩
      | false =>
        simp only [hcancelled, hclosed, Bool.or_false, Bool.false_eq_true, if_false] at h
        refine ⟨3, ?_⟩
        split at h
        · rename_i frame c₁ hpop
          obtain ⟨rfl, rfl⟩ := Prod.mk.inj (Option.some.inj h)
          simp [advance, ofWriter, hp, hcancelled, hclosed, hpop]
        · rename_i c₁ hpop
          split at h
          · rename_i period hperiod
            split_ifs at h with hdue
            obtain ⟨rfl, rfl⟩ := Prod.mk.inj (Option.some.inj h)
            simp [advance, ofWriter, hp, hcancelled, hclosed, hpop, hperiod, hdue]
          · cases h
  · cases h

/-- Steps that nobody comes between add up to `enter`. -/
theorem advance_eq_enter (r : SendResult) (h : w.enter c now = some (w', c')) :
    ∃ n, (fun x : Scribe × Connection => x.1.advance x.2 now r)^[n] (ofWriter w, c) =
      (ofWriter w', c') := by
  refine ⟨3, ?_⟩
  unfold Writer.enter at h
  split at h
  · rename_i m hp
    split_ifs at h with hgate hclosed
    · obtain ⟨rfl, rfl⟩ := Prod.mk.inj (Option.some.inj h)
      simp [advance, ofWriter, hp, hgate, hclosed]
    · obtain ⟨rfl, rfl⟩ := Prod.mk.inj (Option.some.inj h)
      simp [advance, ofWriter, hp, hgate, hclosed]
  · cases h

/-- Steps that nobody comes between add up to `finish`. -/
theorem advance_eq_finish {r : SendResult} (h : w.finish c r = some (w', c')) :
    ∃ n, (fun x : Scribe × Connection => x.1.advance x.2 now r)^[n] (ofWriter w, c) =
      (ofWriter w', c') := by
  unfold Writer.finish at h
  split at h
  · rename_i m deadline hp
    cases r with
    | sent =>
      obtain ⟨rfl, rfl⟩ := Prod.mk.inj (Option.some.inj h)
      exact ⟨3, by simp [advance, ofWriter, hp]⟩
    | failed =>
      obtain ⟨rfl, rfl⟩ := Prod.mk.inj (Option.some.inj h)
      exact ⟨4, by simp [advance, ofWriter, hp]⟩
    | timedOut =>
      obtain ⟨rfl, rfl⟩ := Prod.mk.inj (Option.some.inj h)
      exact ⟨4, by simp [advance, ofWriter, hp, Connection.cancel]⟩
  · cases h

end Scribe

inductive CloserMoment where
  | called
  /-- The queue is closed. -/
  | emptied
  | cancelled
  /-- It has asked for the gate. -/
  | waiting
  | holding
  /-- It has had the gate. -/
  | released
  | returned
  /-- Given up while it waited. -/
  | abandoned
  deriving DecidableEq

namespace CloserMoment

def advance (n : Nat) (k : CloserMoment) (c : Connection) : CloserMoment × Connection :=
  match k with
  | .called => (.emptied, { c with queue := c.queue.close })
  | .emptied => (.cancelled, c.cancel)
  | .cancelled => (.waiting, { c with gate := c.gate.request (.closer n) })
  | .waiting => if c.gate.heldBy (.closer n) then (.holding, c) else (.waiting, c)
  | .holding => (.released, { c with gate := c.gate.release })
  | .released => (.returned, c)
  | .returned => (.returned, c)
  | .abandoned => (.abandoned, c)

/-- The `n`th call is given up, if it waits. -/
def abandon (n : Nat) (k : CloserMoment) (c : Connection) : CloserMoment × Connection :=
  match k with
  | .waiting => (.abandoned, c.abandonClose n)
  | k => (k, c)

theorem advance_eq_beginClose (n : Nat) (c : Connection) :
    (fun x : CloserMoment × Connection => x.1.advance n x.2)^[3] (.called, c) =
      (.waiting, c.beginClose n) := rfl

theorem advance_eq_endClose {n : Nat} {c c' : Connection} (h : c.endClose n = some c') :
    (fun x : CloserMoment × Connection => x.1.advance n x.2)^[3] (.waiting, c) =
      (.returned, c') := by
  unfold Connection.endClose at h
  split_ifs at h with hgate
  obtain rfl := Option.some.inj h
  simp [advance, hgate]

end CloserMoment

/-- A connection with its writer and all calls to close it, and what the queue and the socket have
seen. -/
structure Scene where
  connection : Connection
  scribe : Scribe
  closers : List CloserMoment := []
  /-- The frames that the queue took, the first one first. -/
  pushed : List String := []
  /-- What the writer has begun to send, the first one first. -/
  handed : List Outgoing := []

namespace Scene

inductive Move where
  | push (frame : String)
  /-- An overflow, or anybody else, cancels the connection. -/
  | cancel
  /-- The writer takes a step. A send that is under way ends with `r`. -/
  | write (now : Nat) (r : SendResult)
  /-- Somebody calls to close. -/
  | close
  | advance (n : Nat)
  | abandon (n : Nat)
  /-- An outsider asks for the gate. -/
  | hold
  /-- An outsider who has the gate gives it back. -/
  | letGo

def start (c : Connection) (writeMs : Nat) (pingMs : Option Nat) (now : Nat) : Scene :=
  { connection := c, scribe := .start writeMs pingMs now }

def perform (s : Scene) : Move → Scene
  | .push frame =>
    let (outcome, queue) := s.connection.queue.push frame
    { s with
      connection := { s.connection with queue }
      pushed :=
        if outcome = .queued ∨ outcome = .droppedOldest then s.pushed ++ [frame] else s.pushed }
  | .cancel => { s with connection := s.connection.cancel }
  | .write now r =>
    let (scribe, connection) := s.scribe.advance s.connection now r
    { s with scribe, connection, handed := s.handed ++ s.scribe.moment.begun }
  | .close => { s with closers := s.closers ++ [.called] }
  | .advance n =>
    match s.closers[n]? with
    | some k =>
      let (k, connection) := k.advance n s.connection
      { s with connection, closers := s.closers.set n k }
    | none => s
  | .abandon n =>
    match s.closers[n]? with
    | some k =>
      let (k, connection) := k.abandon n s.connection
      { s with connection, closers := s.closers.set n k }
    | none => s
  | .hold =>
    { s with connection := { s.connection with gate := s.connection.gate.request .outsider } }
  | .letGo =>
    if s.connection.gate.heldBy .outsider then
      { s with connection := { s.connection with gate := s.connection.gate.release } }
    else s

def follow (s : Scene) (ms : List Move) : Scene := ms.foldl perform s

def Later : Scene → Scene → Prop := Relation.ReflTransGen fun s s' => ∃ m, s' = s.perform m

def Reachable (s : Scene) : Prop :=
  ∃ id session capacity policy opened writeMs pingMs now,
    Later (start (.new id session capacity policy opened) writeMs pingMs now) s

theorem later_follow (s : Scene) (ms : List Move) : Later s (s.follow ms) := by
  induction ms generalizing s with
  | nil => exact .refl
  | cons m ms ih => exact .head ⟨m, rfl⟩ (ih _)

/-- What every move keeps holds from then on. -/
theorem Later.keeps {s s' : Scene} {P : Scene → Prop} (h : Later s s') (hs : P s)
    (hstep : ∀ s m, P s → P (s.perform m)) : P s' := by
  induction h with
  | refl => exact hs
  | tail _ hnext ih =>
    obtain ⟨m, rfl⟩ := hnext
    exact hstep _ m ih

/-- To queue a frame is to push it and, on an overflow, to cancel. What is counted and logged comes on
top. -/
theorem follow_eq_enqueue (s : Scene) (frame : String) :
    ∃ t, (s.connection.enqueue frame).2 =
      { (s.follow (.push frame ::
          if (s.connection.enqueue frame).1 = .overflow then [.cancel] else [])).connection with
        telemetry := t } := by
  refine ⟨(s.connection.enqueue frame).2.telemetry, ?_⟩
  cases h : (s.connection.queue.push frame).1 with
  | queued | droppedOldest | closed => simp [follow, perform, Connection.enqueue, h]
  | overflow => simp [follow, perform, Connection.enqueue, Connection.cancel, h]

end Scene

end Fanout
