import Fanout.Server.Queue
import Mathlib.Data.List.Infix

/-!
The queue of frames under both policies. Main statement: over any calls, what was taken and what waits
is what was offered less the frames counted as lost, and a queue that may lose none closes at the first
frame that finds it full.
-/
namespace Fanout

namespace OutboundQueue

def IsFull (q : OutboundQueue) : Prop := q.closed = false ∧ q.capacity ≤ q.size

theorem push_of_closed {q : OutboundQueue} (h : q.closed = true) (frame : String) :
    q.push frame = (.closed, q) := by
  simp [push, h]

theorem pop_of_closed {q : OutboundQueue} (h : q.closed = true) : q.pop = (none, q) := by
  simp [pop, h]

theorem pop_of_cons {q : OutboundQueue} (h : q.closed = false) {frame : String}
    {rest : List String} (hframes : q.frames = frame :: rest) :
    q.pop = (some frame, { q with frames := rest }) := by
  simp [pop, h, hframes]

theorem push_cases (q : OutboundQueue) (frame : String) :
    (q.closed = true ∧ q.push frame = (.closed, q)) ∨
    (q.closed = false ∧ q.size < q.capacity ∧
      q.push frame = (.queued, { q with frames := q.frames ++ [frame] })) ∨
    (q.IsFull ∧ q.policy = .dropOldest ∧ q.push frame = (.droppedOldest,
      { q with frames := q.frames.tail ++ [frame], dropped := q.dropped + 1 })) ∨
    (q.IsFull ∧ q.policy = .disconnect ∧ q.push frame = (.overflow,
      { q with frames := [], closed := true, dropped := q.dropped + 1 })) := by
  cases hclosed : q.closed with
  | true => exact .inl ⟨rfl, push_of_closed hclosed frame⟩
  | false =>
    by_cases hroom : q.frames.length < q.capacity
    · exact .inr (.inl ⟨rfl, hroom, by simp [push, hclosed, hroom]⟩)
    · have hfull : q.IsFull := ⟨hclosed, Nat.le_of_not_lt hroom⟩
      cases hpolicy : q.policy with
      | dropOldest =>
        exact .inr (.inr (.inl ⟨hfull, rfl, by simp [push, hclosed, hroom, hpolicy]⟩))
      | disconnect =>
        exact .inr (.inr (.inr ⟨hfull, rfl, by simp [push, hclosed, hroom, hpolicy]⟩))

theorem pop_cases (q : OutboundQueue) :
    (q.closed = true ∧ q.pop = (none, q)) ∨
    (q.closed = false ∧ q.frames = [] ∧ q.pop = (none, q)) ∨
    (q.closed = false ∧ ∃ frame rest, q.frames = frame :: rest ∧
      q.pop = (some frame, { q with frames := rest })) := by
  obtain ⟨capacity, policy, frames, closed, dropped⟩ := q
  cases closed with
  | true => exact .inl ⟨rfl, rfl⟩
  | false =>
    cases frames with
    | nil => exact .inr (.inl ⟨rfl, rfl, rfl⟩)
    | cons frame rest => exact .inr (.inr ⟨rfl, frame, rest, rfl, rfl⟩)

@[simp] theorem pop_closed (q : OutboundQueue) : q.pop.2.closed = q.closed := by
  rcases q.pop_cases with ⟨-, hq⟩ | ⟨-, -, hq⟩ | ⟨-, frame, rest, -, hq⟩ <;> rw [hq]

@[simp] theorem pop_dropped (q : OutboundQueue) : q.pop.2.dropped = q.dropped := by
  rcases q.pop_cases with ⟨-, hq⟩ | ⟨-, -, hq⟩ | ⟨-, frame, rest, -, hq⟩ <;> rw [hq]

theorem push_policy (q : OutboundQueue) (frame : String) : (q.push frame).2.policy = q.policy := by
  rcases q.push_cases frame with ⟨-, hq⟩ | ⟨-, -, hq⟩ | ⟨-, -, hq⟩ | ⟨-, -, hq⟩ <;> rw [hq]

/-- A queue that takes a frame puts it last, and may drop others. -/
theorem push_sublist (q : OutboundQueue) (frame : String) :
    (q.push frame).2.frames.Sublist
      (if (q.push frame).1 = .queued ∨ (q.push frame).1 = .droppedOldest then q.frames ++ [frame]
      else q.frames) := by
  rcases q.push_cases frame with ⟨-, hq⟩ | ⟨-, -, hq⟩ | ⟨-, -, hq⟩ | ⟨-, -, hq⟩
  · simp [hq]
  · simp [hq]
  · simp [hq, List.tail_sublist]
  · simp [hq]

theorem push_eq_overflow_iff {q : OutboundQueue} (hpolicy : q.policy = .disconnect)
    (frame : String) : (q.push frame).1 = .overflow ↔ q.IsFull := by
  rcases q.push_cases frame with ⟨hclosed, h⟩ | ⟨-, hroom, h⟩ | ⟨-, hother, -⟩ | ⟨hfull, -, h⟩
  · simp [h, IsFull, hclosed]
  · simp [h, IsFull, hroom]
  · rw [hpolicy] at hother
    cases hother
  · simp [h, hfull]

end OutboundQueue

namespace WaitingQueue

inductive Call where
  | push (frame : String)
  /-- Takes a frame if there is one. -/
  | tryPop
  /-- The consumer begins to wait for a frame. -/
  | pop
  /-- The consumer looks whether its wait is over. -/
  | serve
  | close

structure Trace where
  state : WaitingQueue
  pushed : List String := []
  popped : List String := []

namespace Trace

def queue (t : Trace) : OutboundQueue := t.state.queue

def start (capacity : Nat) (policy : OverflowPolicy) : Trace :=
  { state := { queue := .new capacity policy } }

def step (t : Trace) : Call → Trace
  | .push frame =>
    { t with state.queue := (t.queue.push frame).2, pushed := t.pushed ++ [frame] }
  | .tryPop => { t with state.queue := t.queue.pop.2, popped := t.popped ++ t.queue.pop.1.toList }
  | .pop => { t with state.waiting := true }
  | .serve =>
    { t with state := t.state.serve.2, popped := t.popped ++ t.state.serve.1.join.toList }
  | .close => { t with state.queue := t.queue.close }

def run (capacity : Nat) (policy : OverflowPolicy) (calls : List Call) : Trace :=
  calls.foldl step (start capacity policy)

theorem run_append (capacity : Nat) (policy : OverflowPolicy) (calls more : List Call) :
    run capacity policy (calls ++ more) = more.foldl step (run capacity policy calls) :=
  List.foldl_append

theorem run_concat (capacity : Nat) (policy : OverflowPolicy) (calls : List Call) (c : Call) :
    run capacity policy (calls ++ [c]) = (run capacity policy calls).step c :=
  run_append capacity policy calls [c]

theorem serve_of_cons {w : WaitingQueue} (hwaiting : w.waiting = true)
    (hopen : w.queue.closed = false) {frame : String} {rest : List String}
    (hframes : w.queue.frames = frame :: rest) :
    w.serve = (some (some frame), ⟨{ w.queue with frames := rest }, false⟩) := by
  simp [serve, hwaiting, hframes, OutboundQueue.pop_of_cons hopen hframes]

/-- A waiting consumer takes its frame as anybody would, or nothing happens. -/
theorem serve_cases (t : Trace) :
    ((t.step .serve).queue = t.queue ∧ (t.step .serve).pushed = t.pushed ∧
      (t.step .serve).popped = t.popped) ∨
    ((t.step .serve).queue = (t.step .tryPop).queue ∧
      (t.step .serve).pushed = (t.step .tryPop).pushed ∧
      (t.step .serve).popped = (t.step .tryPop).popped) := by
  unfold step queue serve
  dsimp only
  split
  · exact .inr ⟨rfl, rfl, rfl⟩
  · exact .inl ⟨rfl, rfl, by simp⟩

/-- What was taken and what waits are the frames offered, less those counted as lost. -/
structure Accounted (q : OutboundQueue) (pushed popped : List String) : Prop where
  sublist : (popped ++ q.frames).Sublist pushed
  length : (popped ++ q.frames).length + q.dropped = pushed.length
  recent : q.frames <:+ pushed

namespace Accounted

variable {q : OutboundQueue} {pushed popped : List String} {frame : String}

theorem queue (h : Accounted q pushed popped) (frame : String) :
    Accounted { q with frames := q.frames ++ [frame] } (pushed ++ [frame]) popped := by
  obtain ⟨hsublist, hlength, hrecent⟩ := h
  constructor
  · rw [← List.append_assoc]
    exact hsublist.append_right [frame]
  · simp only [List.length_append, List.length_singleton] at hlength ⊢
    omega
  · obtain ⟨before, rfl⟩ := hrecent
    exact ⟨before, by simp⟩

theorem evict (h : Accounted q pushed popped) {oldest : String} {rest : List String}
    (hframes : q.frames = oldest :: rest) :
    Accounted { q with frames := rest, dropped := q.dropped + 1 } pushed popped := by
  obtain ⟨hsublist, hlength, hrecent⟩ := h
  rw [hframes] at hsublist hlength hrecent
  constructor
  · exact ((List.sublist_cons_self oldest rest).append_left popped).trans hsublist
  · simp only [List.length_append, List.length_cons] at hlength ⊢
    omega
  · exact (List.suffix_cons oldest rest).trans hrecent

theorem take (h : Accounted q pushed popped) {rest : List String}
    (hframes : q.frames = frame :: rest) :
    Accounted { q with frames := rest } pushed (popped ++ [frame]) := by
  obtain ⟨hsublist, hlength, hrecent⟩ := h
  rw [hframes] at hsublist hlength hrecent
  constructor
  · simpa using hsublist
  · simpa using hlength
  · exact (List.suffix_cons frame rest).trans hrecent

theorem eq_pushed (h : Accounted q pushed popped) (hnone : q.dropped = 0) :
    popped ++ q.frames = pushed := by
  have hlength := h.length
  rw [hnone] at hlength
  exact h.sublist.eq_of_length hlength

end Accounted

structure Orderly (capacity : Nat) (policy : OverflowPolicy) (q : OutboundQueue)
    (pushed popped : List String) : Prop where
  capacity_eq : q.capacity = max capacity 1
  policy_eq : q.policy = policy
  size_le : q.size ≤ q.capacity
  empty : q.closed = true → q.frames = []
  accounted : q.closed = false → Accounted q pushed popped
  lossless : policy = .disconnect → q.closed = false → q.dropped = 0

namespace Orderly

variable {capacity : Nat} {policy : OverflowPolicy} {q : OutboundQueue} {pushed popped : List String}

theorem start (capacity : Nat) (policy : OverflowPolicy) :
    Orderly capacity policy (.new capacity policy) [] [] where
  capacity_eq := rfl
  policy_eq := rfl
  size_le := Nat.zero_le _
  empty := fun _ => rfl
  accounted := fun _ => ⟨.slnil, rfl, List.suffix_rfl⟩
  lossless := fun _ _ => rfl

theorem push (h : Orderly capacity policy q pushed popped) (frame : String) :
    Orderly capacity policy (q.push frame).2 (pushed ++ [frame]) popped := by
  have hsize := h.size_le
  rcases q.push_cases frame with ⟨hclosed, hq⟩ | ⟨hopen, hroom, hq⟩ | ⟨hfull, hpolicy, hq⟩ |
    ⟨hfull, hpolicy, hq⟩
  · rw [hq]
    refine ⟨h.capacity_eq, h.policy_eq, hsize, h.empty, ?_, h.lossless⟩
    intro hopen
    rw [hclosed] at hopen
    cases hopen
  · rw [hq]
    refine ⟨h.capacity_eq, h.policy_eq, ?_, ?_, fun _ => (h.accounted hopen).queue frame, h.lossless⟩
    · change (q.frames ++ [frame]).length ≤ q.capacity
      rw [List.length_append]
      exact hroom
    · intro hclosed
      rw [hopen] at hclosed
      cases hclosed
  · -- A full queue has an oldest frame, since there is room for one frame at least.
    obtain ⟨oldest, rest, hframes⟩ : ∃ oldest rest, q.frames = oldest :: rest := by
      apply List.exists_cons_of_length_pos
      have hcapacity := h.capacity_eq
      have hfilled : q.capacity ≤ q.frames.length := hfull.2
      omega
    rw [OutboundQueue.size, hframes, List.length_cons] at hsize
    rw [hq, hframes, List.tail_cons]
    refine ⟨h.capacity_eq, h.policy_eq, ?_, ?_,
      fun _ => ((h.accounted hfull.1).evict hframes).queue frame, ?_⟩
    · simpa [OutboundQueue.size] using hsize
    · intro hclosed
      rw [hfull.1] at hclosed
      cases hclosed
    · intro hother
      rw [h.policy_eq, hother] at hpolicy
      cases hpolicy
  · rw [hq]
    refine ⟨h.capacity_eq, h.policy_eq, Nat.zero_le _, fun _ => rfl, ?_, ?_⟩
    · intro hopen
      cases hopen
    · intro _ hopen
      cases hopen

theorem pop (h : Orderly capacity policy q pushed popped) :
    Orderly capacity policy q.pop.2 pushed (popped ++ q.pop.1.toList) := by
  rcases q.pop_cases with ⟨-, hq⟩ | ⟨-, -, hq⟩ | ⟨hopen, frame, rest, hframes, hq⟩
  · simpa [hq] using h
  · simpa [hq] using h
  · have hsize := h.size_le
    rw [OutboundQueue.size, hframes, List.length_cons] at hsize
    rw [hq]
    refine ⟨h.capacity_eq, h.policy_eq, Nat.le_of_succ_le hsize, ?_,
      fun _ => (h.accounted hopen).take hframes, h.lossless⟩
    intro hclosed
    rw [hopen] at hclosed
    cases hclosed

theorem close (h : Orderly capacity policy q pushed popped) :
    Orderly capacity policy q.close pushed popped where
  capacity_eq := h.capacity_eq
  policy_eq := h.policy_eq
  size_le := Nat.zero_le _
  empty := fun _ => rfl
  accounted := fun hopen => by cases hopen
  lossless := fun _ hopen => by cases hopen

theorem step {t : Trace} (h : Orderly capacity policy t.queue t.pushed t.popped) (c : Call) :
    Orderly capacity policy (t.step c).queue (t.step c).pushed (t.step c).popped := by
  cases c with
  | push frame => exact h.push frame
  | tryPop => exact h.pop
  | pop => exact h
  | serve =>
    rcases t.serve_cases with ⟨hq, hpushed, hpopped⟩ | ⟨hq, hpushed, hpopped⟩
    · rw [hq, hpushed, hpopped]
      exact h
    · rw [hq, hpushed, hpopped]
      exact h.pop
  | close => exact h.close

theorem run (capacity : Nat) (policy : OverflowPolicy) (calls : List Call) :
    Orderly capacity policy (Trace.run capacity policy calls).queue
      (Trace.run capacity policy calls).pushed (Trace.run capacity policy calls).popped := by
  induction calls using List.reverseRecOn with
  | nil => exact start capacity policy
  | append_singleton calls c ih =>
    rw [run_concat]
    exact ih.step c

end Orderly

/-- What a call does to the queue itself. -/
theorem step_cases (t : Trace) (c : Call) :
    (∃ frame, c = .push frame ∧ (t.step c).queue = (t.queue.push frame).2) ∨
    (c = .close ∧ (t.step c).queue = t.queue.close) ∨
    ((∀ frame, c ≠ .push frame) ∧ c ≠ .close ∧
      ((t.step c).queue = t.queue ∨ (t.step c).queue = t.queue.pop.2)) := by
  cases c with
  | push frame => exact .inl ⟨frame, rfl, rfl⟩
  | close => exact .inr (.inl ⟨rfl, rfl⟩)
  | tryPop => exact .inr (.inr ⟨by simp, by simp, .inr rfl⟩)
  | pop => exact .inr (.inr ⟨by simp, by simp, .inl rfl⟩)
  | serve =>
    refine .inr (.inr ⟨by simp, by simp, ?_⟩)
    rcases t.serve_cases with ⟨hq, -⟩ | ⟨hq, -⟩
    · exact .inl hq
    · exact .inr hq

/-- Nothing is done to a closed queue any more. -/
theorem step_of_closed {t : Trace} (hclosed : t.queue.closed = true) (hempty : t.queue.frames = [])
    (c : Call) : (t.step c).queue = t.queue := by
  rcases t.step_cases c with ⟨frame, -, hq⟩ | ⟨-, hq⟩ | ⟨-, -, hq | hq⟩
  · rw [hq, OutboundQueue.push_of_closed hclosed]
  · rw [hq, OutboundQueue.close, ← hclosed, ← hempty]
  · exact hq
  · rw [hq, OutboundQueue.pop_of_closed hclosed]

theorem foldl_of_closed {t : Trace} (hclosed : t.queue.closed = true)
    (hempty : t.queue.frames = []) (more : List Call) : (more.foldl step t).queue = t.queue := by
  induction more generalizing t with
  | nil => rfl
  | cons c more ih =>
    have hstep := step_of_closed hclosed hempty c
    rw [List.foldl_cons, ih (hstep ▸ hclosed) (hstep ▸ hempty), hstep]

theorem step_closed_iff (t : Trace) (c : Call) :
    (t.step c).queue.closed = true ↔ t.queue.closed = true ∨ c = .close ∨
      (t.queue.policy = .disconnect ∧ ∃ frame, c = .push frame ∧ t.queue.IsFull) := by
  rcases t.step_cases c with ⟨frame, rfl, hq⟩ | ⟨rfl, hq⟩ | ⟨hpush, hclose, hq | hq⟩
  · rw [hq]
    rcases t.queue.push_cases frame with ⟨hclosed, hp⟩ | ⟨hopen, hroom, hp⟩ | ⟨hfull, hpolicy, hp⟩ |
      ⟨hfull, hpolicy, hp⟩
    · simp [hp, hclosed]
    · simp [hp, hopen, OutboundQueue.IsFull, hroom]
    · simp [hp, hfull.1, hpolicy]
    · simp [hp, hpolicy, hfull]
  · simp [hq, OutboundQueue.close]
  · simp [hq, hpush, hclose]
  · simp [hq, hpush, hclose]

theorem step_dropped (t : Trace) {c : Call} (h : ∀ frame, c = .push frame → ¬ t.queue.IsFull) :
    (t.step c).queue.dropped = t.queue.dropped := by
  rcases t.step_cases c with ⟨frame, hc, hq⟩ | ⟨-, hq⟩ | ⟨-, -, hq | hq⟩
  · rw [hq]
    rcases t.queue.push_cases frame with ⟨-, hp⟩ | ⟨-, -, hp⟩ | ⟨hfull, -⟩ | ⟨hfull, -⟩
    · rw [hp]
    · rw [hp]
    · exact absurd hfull (h frame hc)
    · exact absurd hfull (h frame hc)
  · rw [hq, OutboundQueue.close]
  · rw [hq]
  · rw [hq, OutboundQueue.pop_dropped]

section Overflow

variable {capacity : Nat} {policy : OverflowPolicy} {calls : List Call}

/-- Some frame was offered when the queue was full. -/
def Overflowed (capacity : Nat) (policy : OverflowPolicy) (calls : List Call) : Prop :=
  ∃ before frame after, calls = before ++ .push frame :: after ∧
    (run capacity policy before).queue.IsFull

theorem overflowed_concat {c : Call} :
    Overflowed capacity policy (calls ++ [c]) ↔ Overflowed capacity policy calls ∨
      ∃ frame, c = .push frame ∧ (run capacity policy calls).queue.IsFull := by
  constructor
  · rintro ⟨before, frame, after, hcalls, hfull⟩
    rcases List.eq_nil_or_concat' after with rfl | ⟨after, last, rfl⟩
    · obtain ⟨rfl, hc⟩ := List.append_inj' hcalls rfl
      exact .inr ⟨frame, (List.cons.inj hc).1, hfull⟩
    · rw [← List.cons_append, ← List.append_assoc] at hcalls
      obtain ⟨rfl, -⟩ := List.append_inj' hcalls rfl
      exact .inl ⟨before, frame, after, rfl, hfull⟩
  · rintro (⟨before, frame, after, rfl, hfull⟩ | ⟨frame, rfl, hfull⟩)
    · exact ⟨before, frame, after ++ [c], by simp, hfull⟩
    · exact ⟨calls, frame, [], rfl, hfull⟩

theorem closed_iff : (run capacity policy calls).queue.closed = true ↔
    .close ∈ calls ∨ (policy = .disconnect ∧ Overflowed capacity policy calls) := by
  induction calls using List.reverseRecOn with
  | nil =>
    have hnever : ¬ Overflowed capacity policy [] := by
      rintro ⟨before, frame, after, hcalls, -⟩
      simp at hcalls
    simp [run, start, queue, OutboundQueue.new, hnever]
  | append_singleton calls c ih =>
    rw [run_concat, step_closed_iff, ih, (Orderly.run capacity policy calls).policy_eq,
      overflowed_concat, List.mem_append, List.mem_singleton, eq_comm (a := c)]
    tauto

theorem dropped_of_not_overflowed (h : ¬ Overflowed capacity policy calls) :
    (run capacity policy calls).queue.dropped = 0 := by
  induction calls using List.reverseRecOn with
  | nil => rfl
  | append_singleton calls c ih =>
    rw [overflowed_concat, not_or] at h
    rw [run_concat, step_dropped, ih h.1]
    intro frame hc hfull
    exact h.2 ⟨frame, hc, hfull⟩

/-- A queue that may lose nothing is at its end with the frame that did not fit. -/
theorem dropped_of_overflowed (h : Overflowed capacity .disconnect calls) :
    (run capacity .disconnect calls).queue.dropped = 1 := by
  obtain ⟨before, frame, after, rfl, hfull⟩ := h
  have horderly := Orderly.run capacity .disconnect before
  have hend : ((run capacity .disconnect before).step (.push frame)).queue =
      { (run capacity .disconnect before).queue with
        frames := [], closed := true, dropped := 1 } := by
    change ((run capacity .disconnect before).queue.push frame).2 = _
    have hnone := horderly.lossless rfl hfull.1
    rcases (run capacity .disconnect before).queue.push_cases frame with ⟨hclosed, -⟩ |
      ⟨-, hroom, -⟩ | ⟨-, hpolicy, -⟩ | ⟨-, -, hq⟩
    · rw [hfull.1] at hclosed
      cases hclosed
    · exact absurd hfull.2 (Nat.not_le.mpr hroom)
    · rw [horderly.policy_eq] at hpolicy
      cases hpolicy
    · rw [hq, hnone]
  rw [run_append, List.foldl_cons, foldl_of_closed (by rw [hend]) (by rw [hend]), hend]

end Overflow

/-- After any calls a queue holds no more frames than it has room for, and once closed it is empty,
stays so and refuses everything. As long as it is open, whoever takes a frame gets the oldest one that
waits; if it drops the oldest, the frames taken and
those that wait are the ones offered less as many as it counted, and those that wait are the last ones
offered; if it disconnects, nothing is lost. It is closed by a call to close, or, if it disconnects, by
the first frame that finds it full, which is then the one frame lost. -/
theorem discipline (capacity : Nat) (policy : OverflowPolicy) (calls : List Call) :
    let t := run capacity policy calls
    t.queue.size ≤ max capacity 1 ∧
    (t.queue.closed = true → t.queue.frames = [] ∧
      (∀ more, (run capacity policy (calls ++ more)).queue = t.queue) ∧
      (∀ frame, t.queue.push frame = (.closed, t.queue)) ∧ t.queue.pop = (none, t.queue) ∧
      (t.state.waiting = true → t.state.serve.1 = some none)) ∧
    (policy = .dropOldest →
      (t.queue.closed = true ↔ .close ∈ calls) ∧
      (t.queue.closed = false → (t.popped ++ t.queue.frames).Sublist t.pushed ∧
        (t.popped ++ t.queue.frames).length + t.queue.dropped = t.pushed.length ∧
        t.queue.frames <:+ t.pushed)) ∧
    (policy = .disconnect →
      (t.queue.closed = false → t.popped ++ t.queue.frames = t.pushed) ∧
      (∀ frame, (t.queue.push frame).1 = .overflow ↔ t.queue.IsFull) ∧
      (t.queue.closed = true ↔ .close ∈ calls ∨ Overflowed capacity policy calls) ∧
      (Overflowed capacity policy calls → t.queue.dropped = 1) ∧
      (¬ Overflowed capacity policy calls → t.queue.dropped = 0)) ∧
    (t.queue.closed = false → ∀ frame rest, t.queue.frames = frame :: rest →
      t.queue.pop = (some frame, { t.queue with frames := rest }) ∧
      (t.state.waiting = true →
        t.state.serve = (some (some frame), ⟨{ t.queue with frames := rest }, false⟩))) := by
  intro t
  have horderly : Orderly capacity policy t.queue t.pushed t.popped := .run capacity policy calls
  have hclosed : t.queue.closed = true ↔ _ := closed_iff
  refine ⟨?_, ?_, ?_, ?_, ?_⟩
  · rw [← horderly.capacity_eq]
    exact horderly.size_le
  · intro hend
    have hempty := horderly.empty hend
    have hpop := OutboundQueue.pop_of_closed hend
    refine ⟨hempty, ?_, fun frame => OutboundQueue.push_of_closed hend frame, hpop, ?_⟩
    · intro more
      rw [run_append]
      exact foldl_of_closed hend hempty more
    · intro hwaiting
      have hend' : t.state.queue.closed = true := hend
      simp [serve, hwaiting, hend', OutboundQueue.pop_of_closed]
  · rintro rfl
    refine ⟨by simpa using hclosed, ?_⟩
    intro hopen
    obtain ⟨hsublist, hlength, hrecent⟩ := horderly.accounted hopen
    exact ⟨hsublist, hlength, hrecent⟩
  · rintro rfl
    refine ⟨?_, ?_, by simpa using hclosed, dropped_of_overflowed, dropped_of_not_overflowed⟩
    · exact fun hopen => (horderly.accounted hopen).eq_pushed (horderly.lossless rfl hopen)
    · exact fun frame => OutboundQueue.push_eq_overflow_iff horderly.policy_eq frame
  · intro hopen frame rest hframes
    refine ⟨OutboundQueue.pop_of_cons hopen hframes, ?_⟩
    exact fun hwaiting => serve_of_cons hwaiting hopen hframes

/-- A queue for two frames loses the oldest of three, and its consumers get the next two; one asked to
hold none holds one, and closes when a second one comes before the first is taken. -/
theorem discipline_pressure :
    let filled := [.push "a", .push "b", .push "c", .tryPop, .pop]
    let kept := filled ++ [.push "d", .serve]
    let t := run 2 .dropOldest kept
    let lost := [.push "a", .tryPop, .push "b", .push "c", .push "d"]
    let u := run 0 .disconnect lost
    (run 2 .dropOldest filled).state.serve.1 = some (some "c") ∧
      t.queue.closed = false ∧ t.popped = ["b", "c"] ∧ t.queue.frames = ["d"] ∧
      (t.popped ++ t.queue.frames).Sublist t.pushed ∧
      (t.popped ++ t.queue.frames).length + t.queue.dropped = t.pushed.length ∧
      t.queue.frames <:+ t.pushed ∧
      Overflowed 0 .disconnect lost ∧ u.queue.closed = true ∧ u.queue.dropped = 1 ∧
      u.queue.frames = [] := by
  intro filled kept t lost u
  have hserve := ((discipline 2 .dropOldest filled).2.2.2.2 rfl "c" [] rfl).2 rfl
  have hopen : t.queue.closed = false := rfl
  obtain ⟨hsublist, hlength, hrecent⟩ := ((discipline 2 .dropOldest kept).2.2.1 rfl).2 hopen
  have hover : Overflowed 0 .disconnect lost :=
    ⟨[.push "a", .tryPop, .push "b"], "c", [.push "d"], rfl, rfl, le_rfl⟩
  obtain ⟨-, -, hclosed, hdropped, -⟩ := (discipline 0 .disconnect lost).2.2.2.1 rfl
  have hend : u.queue.closed = true := hclosed.mpr (.inr hover)
  exact ⟨congrArg Prod.fst hserve, hopen, rfl, rfl, hsublist, hlength, hrecent, hover, hend,
    hdropped hover, ((discipline 0 .disconnect lost).2.1 hend).1⟩

end Trace

end WaitingQueue

end Fanout
