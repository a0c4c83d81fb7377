import Mathlib.Algebra.Order.Group.Multiset
import Coordination.Background.Delivery
import Coordination.Background.Processor

/-!
# Where background calls are

A background call is always in one place: in its processor's queue, at the store, back in the queue
with a reply, parked, on its way to its caller, or with its caller. Such a place is an item, and
what happens to calls is what happens to their items: `Advance` lists the ways in which one item
becomes the next, each with what it marks in the history of the call.

## Main definitions

* `Item`: the places, each with the call that is there
* `Item.IsOf`: whether an item is of a given call
* `Job.outcome`, `Item.EndsWith`: the event that a reply comes to, and what becomes of the call
* `Advance`: how a call gets from one place to the next
* `Processor.items`: the calls that a processor has

## Main results

* `Advance.isOf`: a call stays the call that it is
* `Processor.items_push`, `Processor.items_park`, `Processor.parkedItems_erase`: the calls of a
  processor that takes a message, parks a call and takes a parked call up again
-/

namespace Coordination

/-! ## Calls -/

/-- A background call: whose it is, its number, what it sends to the store and how it is run. -/
structure Call where
  /-- The client that makes it. -/
  client : Nat
  /-- Its number. -/
  ticket : Nat
  /-- What it sends to the store. -/
  payload : Payload
  /-- How it is to be run. -/
  mode : Mode

/-- The call that a job of a client is for. -/
def Job.call (k : Nat) (j : Job) : Call := ⟨k, j.ticket, j.payload, j.mode⟩

/-- Whether an event says of what kind a call was, and under which path. -/
def Event.IsAbout (e : Event) (p : Payload) : Prop := e.type = p.type ∧ e.path = p.path?

/-- Whether an event is one that a call may end with. -/
def Call.Fits (c : Call) (e : Event) : Prop := e.IsAbout c.payload ∧ e.context = c.mode.context

/-- Whether the event of a job that is not to be sent is one of its call. -/
def Job.IsHonest (j : Job) : Prop := ∀ e, j.decided = some e → e.IsAbout j.payload

theorem Event.isAbout_failed (p : Payload) (code : ErrorCode) :
    (Event.failed p.type p.path? code).IsAbout p :=
  ⟨rfl, rfl⟩

/-- An answer changes neither what an event is about nor its path. -/
theorem Job.isAbout_answered {e : Event} {p : Payload} (n : Namespace)
    (result : Except StoreError Answer) (h : e.IsAbout p) : (answered n e result).IsAbout p := by
  unfold answered
  split <;> exact h

/-- The event of a job is about its call, whatever the reply. -/
theorem Job.isAbout_event {n : Namespace} {j : Job} {reply : StoreReply} {e : Event}
    (h : j.event n reply = .ok e) : e.IsAbout j.payload := by
  have hbare : (Event.bare j.payload.type j.payload.path?).IsAbout j.payload := ⟨rfl, rfl⟩
  unfold event at h
  dsimp only at h
  split at h
  · cases h
    exact isAbout_answered n _ hbare
  · cases hos : Batch.outcomes n _ _ <;> rw [hos] at h <;> cases h
    exact hbare
  · cases hos : Batch.outcomes n _ _ <;> rw [hos] at h <;> cases h
    exact hbare
  · cases h
    exact hbare
  · cases h

/-- The event that a job ends with when it gets no other reply. An answer that does not fit the job
makes no sense. -/
def Job.outcome (n : Namespace) (j : Job) (reply : StoreReply) : Event :=
  match j.event n reply with
  | .ok e => e
  | .error _ => j.failedEvent .runtimeInconsistency

/-- The outcome of a job is about its call. -/
theorem Job.isAbout_outcome (n : Namespace) (j : Job) (reply : StoreReply) :
    (j.outcome n reply).IsAbout j.payload := by
  unfold outcome
  split
  · rename_i h
    exact isAbout_event h
  · exact Event.isAbout_failed ..

/-! ## Items -/

/-- A place where a background call can be, with the call. -/
inductive Item where
  /-- New in the queue of a client's processor. -/
  | queued (k : Nat) (j : Job)
  /-- At the store, or on its way from there with a reply. -/
  | flying (k : Nat) (j : Job) (reply : StoreReply)
  /-- In the queue with a reply. -/
  | answered (k : Nat) (j : Job) (reply : StoreReply)
  /-- Waiting to be sent again. -/
  | parked (k : Nat) (j : Job) (reply : StoreReply)
  /-- Handed to a thread for callbacks. -/
  | handed (k : Nat) (d : Delivery)
  /-- With its caller. -/
  | delivered (ticket : Nat) (e : Event)

namespace Item

/-- The number of the call. -/
def ticket : Item → Nat
  | queued _ j | flying _ j _ | answered _ j _ | parked _ j _ => j.ticket
  | handed _ d => d.ticket
  | delivered n _ => n

/-- Whether an item is of a given call: what is on its way through the processor is the call itself,
what is on its way to the caller is an event that fits. -/
def IsOf (c : Call) : Item → Prop
  | queued k j | flying k j _ | answered k j _ | parked k j _ => j.call k = c ∧ j.IsHonest
  | handed k d => k = c.client ∧ d.ticket = c.ticket ∧ c.Fits d.event
  | delivered n e => n = c.ticket ∧ c.Fits e

theorem IsOf.ticket_eq {c : Call} {x : Item} (h : x.IsOf c) : x.ticket = c.ticket := by
  cases x with
  | queued | flying | answered | parked => exact congrArg Call.ticket h.1
  | handed => exact h.2.1
  | delivered => exact h.1

/-- Whether an item is what becomes of a job once its event is there. -/
inductive Ends (k : Nat) (j : Job) : Item → Prop
  | handed {e : Event} (h : e.IsAbout j.payload) : Ends k j (.handed k (j.delivery e))
  | delivered {e : Event} (h : e.IsAbout j.payload) :
      Ends k j (.delivered j.ticket (j.delivery e).event)

/-- Whether an item is what becomes of a job that has come to an event. -/
def EndsWith (k : Nat) (j : Job) (e : Event) (x : Item) : Prop :=
  x = .handed k (j.delivery e) ∨ x = .delivered j.ticket (j.delivery e).event

theorem EndsWith.ends {k : Nat} {j : Job} {e : Event} {x : Item} (h : x.EndsWith k j e)
    (he : e.IsAbout j.payload) : x.Ends k j := by
  rcases h with rfl | rfl
  · exact .handed he
  · exact .delivered he

/-- Whether an item is what becomes of a job when a reply comes in: the reply is held back, or it
waits for the processor, or the job has come to its event. -/
def Meets (n : Namespace) (k : Nat) (j : Job) (reply : StoreReply) (x : Item) : Prop :=
  x = .flying k j reply ∨ x = .answered k j reply ∨ x.EndsWith k j (j.outcome n reply)

theorem Ends.isOf {k : Nat} {j : Job} {x : Item} (h : x.Ends k j) : x.IsOf (j.call k) := by
  cases h with
  | handed h => exact ⟨rfl, rfl, h, rfl⟩
  | delivered h => exact ⟨rfl, h, rfl⟩

end Item

/-! ## The life of a call -/

/-- What is remembered of a call: each time that its request goes to the store, and each time that
it does not because the root of the namespace could not be ensured. -/
inductive Mark where
  /-- The request has been sent. -/
  | sent (ticket : Nat)
  /-- There was no root. -/
  | unrooted (ticket : Nat)
  deriving DecidableEq

/-- What an attempt at a job makes of it. -/
inductive Attempt (k : Nat) (j : Job) : List Mark → Item → Prop
  /-- The store has been asked. -/
  | sent {now : Nat} {reply : StoreReply} :
      Attempt k j [.sent j.ticket] (.flying k (j.begun now) reply)
  /-- It has not, for an error that is worth a retry. -/
  | unrooted {now : Nat} {e : StoreError} (he : e.isRetryable) :
      Attempt k j [.unrooted j.ticket] (.answered k (j.begun now) (j.payload.refused e))
  /-- It was not to be asked, or cannot be asked. -/
  | ended {marks : List Mark} {x : Item} (hmarks : marks = [] ∨ marks = [.unrooted j.ticket])
      (hx : x.Ends k j) : Attempt k j marks x

/-- How a call gets from one place to the next. -/
inductive Advance : Item → List Mark → Item → Prop
  /-- It is attempted for the first time. -/
  | first {k : Nat} {j : Job} {marks : List Mark} {y : Item} (h : Attempt k j marks y) :
      Advance (.queued k j) marks y
  /-- It is attempted again. -/
  | again {k : Nat} {j : Job} {reply : StoreReply} {marks : List Mark} {y : Item}
      (h : Attempt k j.retried marks y) : Advance (.parked k j reply) marks y
  /-- A reply comes in, and is held back. -/
  | held {k : Nat} {j : Job} {reply reply' : StoreReply} :
      Advance (.flying k j reply) [] (.flying k j reply')
  /-- A reply comes in. -/
  | returned {k : Nat} {j : Job} {reply reply' : StoreReply} :
      Advance (.flying k j reply) [] (.answered k j reply')
  /-- It has to wait. -/
  | parked {k : Nat} {j : Job} {reply : StoreReply} :
      Advance (.answered k j reply) [] (.parked k j reply)
  /-- It ends with a reply that has just come in. -/
  | cut {k : Nat} {j : Job} {reply : StoreReply} {y : Item} (h : y.Ends k j) :
      Advance (.flying k j reply) [] y
  /-- It ends with the reply that it came back with. -/
  | settled {k : Nat} {j : Job} {reply : StoreReply} {y : Item} (h : y.Ends k j) :
      Advance (.answered k j reply) [] y
  /-- It ends with the last reply that it had. -/
  | given {k : Nat} {j : Job} {reply : StoreReply} {y : Item} (h : y.Ends k j) :
      Advance (.parked k j reply) [] y
  /-- Its event is delivered. -/
  | delivered {k : Nat} {d : Delivery} :
      Advance (.handed k d) [] (.delivered d.ticket d.event)

theorem Item.Meets.advance {n : Namespace} {k : Nat} {j : Job} {reply reply' : StoreReply}
    {x : Item} (h : x.Meets n k j reply') : Advance (.flying k j reply) [] x := by
  rcases h with rfl | rfl | h
  · exact .held
  · exact .returned
  · exact .cut (h.ends (j.isAbout_outcome n reply'))

theorem Attempt.isOf {k : Nat} {j : Job} {marks : List Mark} {x : Item} (h : Attempt k j marks x)
    (hj : j.IsHonest) : x.IsOf (j.call k) := by
  cases h with
  | sent | unrooted => exact ⟨rfl, hj⟩
  | ended _ hx => exact hx.isOf

/-- **A call stays the call that it is**, wherever it gets. -/
theorem Advance.isOf {x y : Item} {marks : List Mark} {c : Call} (h : Advance x marks y)
    (hx : x.IsOf c) : y.IsOf c := by
  cases h with
  | first h | again h =>
    obtain ⟨rfl, hj⟩ := hx
    exact h.isOf hj
  | held | returned | parked => exact hx
  | cut h | settled h | given h =>
    obtain ⟨rfl, -⟩ := hx
    exact h.isOf
  | delivered => exact ⟨hx.2.1, hx.2.2⟩

/-! ## The calls of a processor -/

/-- The call that a message brings. -/
def Message.items (k : Nat) : Message → Multiset Item
  | submit j => {.queued k j}
  | completed j reply => {.answered k j reply}
  | shutdown => 0

namespace Processor

/-- The calls that messages bring. -/
def queueItems (k : Nat) : List Message → Multiset Item
  | [] => 0
  | m :: queue => m.items k + queueItems k queue

/-- The calls that are parked, by their numbers. -/
def parkedItems (k : Nat) (parked : Std.ExtTreeMap Nat (Job × StoreReply)) : Multiset Item :=
  ↑(parked.toList.map fun x => Item.parked k x.2.1 x.2.2)

/-- The calls that a client's processor has. -/
def items (k : Nat) (p : Processor) : Multiset Item := queueItems k p.queue + parkedItems k p.parked

variable {k id due : Nat} {p : Processor} {j : Job} {reply : StoreReply}

theorem queueItems_append (k : Nat) (queue : List Message) (m : Message) :
    queueItems k (queue ++ [m]) = m.items k + queueItems k queue := by
  induction queue with
  | nil => rfl
  | cons x queue ih =>
    simp only [List.cons_append, queueItems, ih]
    exact add_left_comm ..

theorem items_push (k : Nat) (p : Processor) (m : Message) :
    (p.push m).items k = m.items k + p.items k := by
  simp only [items, push, queueItems_append, Multiset.add_assoc]

/-- The entries of a tree map with one more number. -/
theorem toList_insert_perm {β : Type} {t : Std.ExtTreeMap Nat β} {b : β} (h : t[id]? = none) :
    (t.insert id b).toList.Perm ((id, b) :: t.toList) := by
  have hnodup (t : Std.ExtTreeMap Nat β) : t.toList.Nodup :=
    t.distinct_keys_toList.imp fun hab heq => hab (by simp [heq])
  have hnew : (id, b) ∉ t.toList := by simp [h]
  refine (List.perm_ext_iff_of_nodup (hnodup _) (List.nodup_cons.mpr ⟨hnew, hnodup t⟩)).mpr ?_
  rintro ⟨i, x⟩
  simp only [Std.ExtTreeMap.mem_toList_iff_getElem?_eq_some, Std.ExtTreeMap.getElem?_insert,
    Nat.compare_eq_eq, List.mem_cons, Prod.mk.injEq]
  by_cases hi : id = i
  · subst hi
    simp [h, eq_comm]
  · simp [hi, Ne.symm hi]

/-- The entries of a tree map of which one is taken away. -/
theorem toList_erase_perm {β : Type} {t : Std.ExtTreeMap Nat β} {b : β} (h : t[id]? = some b) :
    t.toList.Perm ((id, b) :: (t.erase id).toList) := by
  have hback : (t.erase id).insert id b = t := by
    refine Std.ExtTreeMap.ext_getElem? fun i => ?_
    rw [Std.ExtTreeMap.getElem?_insert, Std.ExtTreeMap.getElem?_erase]
    by_cases hi : id = i
    · simp [← hi, h]
    · simp [hi]
  conv => lhs; rw [← hback]
  exact toList_insert_perm (by simp)

theorem items_park (hid : p.parked[p.nextId]? = none) :
    (p.park due j reply).items k = .parked k j reply ::ₘ p.items k := by
  have hparked : parkedItems k (p.parked.insert p.nextId (j, reply)) =
      .parked k j reply ::ₘ parkedItems k p.parked :=
    Multiset.coe_eq_coe.mpr ((toList_insert_perm hid).map _)
  simp only [items, park, hparked, Multiset.add_cons]

theorem parkedItems_erase {parked : Std.ExtTreeMap Nat (Job × StoreReply)}
    (hid : parked[id]? = some (j, reply)) :
    parkedItems k parked = .parked k j reply ::ₘ parkedItems k (parked.erase id) :=
  Multiset.coe_eq_coe.mpr ((toList_erase_perm hid).map _)

end Processor

end Coordination
