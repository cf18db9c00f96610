import Fanout.Filter
import Fanout.Ids
import Fanout.Keyed

/-! Subscriptions, grouped by filter so that each filter is evaluated once for an event. -/
namespace Fanout

/-- One subscription, with the handler to call. -/
structure Subscriber (H : Type) where
  id : SubscriptionId
  handler : H
  createdAt : Time.Timestamp

/-- A subscription as it is listed. -/
structure SubscriptionInfo where
  id : SubscriptionId
  filter : Filter
  createdAt : Time.Timestamp

structure SubscriptionTable (H : Type) where
  /-- The subscribers of each filter, the oldest first. -/
  entries : List (Filter × List (Subscriber H)) := []
  /-- The filter of each subscription. -/
  owners : List (SubscriptionId × Filter) := []
  /-- Set for good when the bus begins to shut down. -/
  closed : Bool := false

namespace SubscriptionTable

variable {H : Type}

def insert (t : SubscriptionTable H) (f : Filter) (s : Subscriber H) : SubscriptionTable H :=
  { t with
    owners := Keyed.put s.id f t.owners
    entries := Keyed.put f ((Keyed.get? f t.entries).getD [] ++ [s]) t.entries }

/-- The entries without one subscriber of a filter. A filter without subscribers goes too. -/
def withoutSubscriber (f : Filter) (id : SubscriptionId)
    (entries : List (Filter × List (Subscriber H))) : List (Filter × List (Subscriber H)) :=
  match Keyed.get? f entries with
  | none => entries
  | some subscribers =>
    match subscribers.filter fun s => s.id ≠ id with
    | [] => Keyed.erase f entries
    | left => Keyed.put f left entries

/-- Removes a subscription and says whether there was one. -/
def remove (t : SubscriptionTable H) (id : SubscriptionId) : Bool × SubscriptionTable H :=
  match Keyed.get? id t.owners with
  | none => (false, t)
  | some f =>
    (true, { t with
      owners := Keyed.erase id t.owners
      entries := withoutSubscriber f id t.entries })

def clear (t : SubscriptionTable H) : SubscriptionTable H := { t with entries := [], owners := [] }

/-- Who gets an event. -/
def targets (t : SubscriptionTable H) (e : Event) : List (SubscriptionId × H) :=
  (t.entries.filter fun (f, _) => f.accepts e).flatMap fun (_, subscribers) =>
    subscribers.map fun s => (s.id, s.handler)

/-- All subscriptions, the oldest first. -/
def list (t : SubscriptionTable H) : List SubscriptionInfo :=
  (t.entries.flatMap fun (f, subscribers) =>
    subscribers.map fun s => ⟨s.id, f, s.createdAt⟩).mergeSort
    fun a b => a.id.number ≤ b.id.number

def size (t : SubscriptionTable H) : Nat := t.owners.length

def distinctFilters (t : SubscriptionTable H) : Nat := t.entries.length

end SubscriptionTable

end Fanout
