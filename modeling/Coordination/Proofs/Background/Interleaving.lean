import Mathlib.Data.Multiset.Range
import Coordination.Proofs.Background.Custody
import Coordination.Simulation.Call

/-!
# Interleavings

The threads of a world may do their work in any order, and anything else may happen between two
pieces of work: calls are accepted, clients start and are shut down, time passes, the store changes.
Whatever the order, a step takes at most one background call to its next place, so at all times the
calls of a world are those that it has accepted, each in one place. This holds as long as the delays
that are asked for lead to instants; a processor that has to wait beyond the last instant loses what
it has.

## Main definitions

* `World.Progress`, `World.IsAtRest`: a piece of work that can be done, and a world without any
* `World.Step`, `World.Steps`, `World.Reached`: what may happen, step by step
* `World.Accounted`: each call that was accepted is in one place
* `World.Moves`: what one step does to the calls

## Main results

* `World.Accounted.step`: a step takes at most one call to its next place
* `World.Reached.accounted`: the calls of every world that comes about are accounted for
-/

namespace Coordination

namespace World

/-! ## Steps -/

/-- A piece of work that somebody can do without waiting. Whoever has work may be the next to do it,
replies come in in any order, and a processor that clears up takes the parked calls in any order.
The policy is any that asks for delays that lead to instants; steps with any delays are
`World.Stride`. -/
inductive Progress (w : World) : List Mark → World → Prop
  /-- A processor takes its next step. -/
  | process {k : Nat} {m : Member} {delay? : Job → StoreReply → Option Duration} {a : Action}
      {processor : Processor} (hm : w.members[k]? = some m)
      (hdelay : ∀ j reply d, delay? j reply = some d → w.clock + d.nanos < Processor.instantLimit)
      (hstep : m.processor.step? delay? w.clock = some (a, processor)) :
      Progress w ((w.updateMember k fun m => { m with processor }).marks k a)
        ((w.updateMember k fun m => { m with processor }).act k a)
  /-- A processor that clears up finishes a parked call. -/
  | clear {k id : Nat} {m : Member} {j : Job} {reply : StoreReply} {processor : Processor}
      (hm : w.members[k]? = some m) (hphase : m.processor.phase = .draining)
      (hqueue : m.processor.queue = []) (hid : m.processor.parked[id]? = some (j, reply))
      (hprocessor : processor = { m.processor with parked := m.processor.parked.erase id }) :
      Progress w [] ((w.updateMember k fun m => { m with processor }).act k (.finish j reply))
  /-- A reply comes in. -/
  | receive {r : IncomingReply} {front back : List IncomingReply}
      (h : w.incoming = front ++ r :: back) :
      Progress w [] ({ w with incoming := front ++ back }.receive r)
  /-- A reply that was held back is let go. -/
  | release {k : Nat} (h : (w.release k).1) : Progress w [] (w.release k).2
  /-- A thread for callbacks takes its next step. -/
  | deliver {i : Nat} {w' : World} (h : w.stepWorker? i = some w') : Progress w [] w'

/-- Whether nobody has anything left to do. -/
def IsAtRest (w : World) : Prop := ∀ marks w', ¬w.Progress marks w'

/-- What else may happen between two pieces of work: time passes, and stores, lines to the store,
clients, listeners and reports may become anything, as long as no call is touched. -/
structure Elsewhere (w w' : World) : Prop where
  /-- Time passes. -/
  clock : w.clock ≤ w'.clock
  /-- The processors and the replies that are held back stay as they are. -/
  members : w'.members.map (fun m => (m.processor, m.held)) =
    w.members.map fun m => (m.processor, m.held)
  /-- So do the replies on their way, -/
  incoming : w'.incoming = w.incoming
  /-- the threads for callbacks -/
  workers : w'.workers = w.workers
  /-- and the deliveries. -/
  calls : w'.calls.map (·.deliveries) = w.calls.map (·.deliveries)

/-- A step of a world. -/
inductive Step (w : World) : List Mark → World → Prop
  /-- Somebody works. -/
  | progress {marks : List Mark} {w' : World} (h : w.Progress marks w') : Step w marks w'
  /-- A call is accepted. -/
  | accept {k n : Nat} {m : Member} {payload : Payload} {mode : Mode} {w' : World}
      (hm : w.members[k]? = some m) (h : w.enqueue k m payload mode = (.ok n, w')) : Step w [] w'
  /-- A processor is shut down. -/
  | shutdown (k : Nat) : Step w [] (w.beginClose k)
  /-- A client starts. -/
  | start {s : Session} {t : Tampering} {c : Config} {k : Nat} {w' : World}
      (h : w.start s t c = .ok (k, w')) : Step w [] w'
  /-- Something else happens. -/
  | elsewhere {w' : World} (h : w.Elsewhere w') : Step w [] w'

/-- So many steps, with what they mark. All delays that are asked for lead to instants. -/
inductive Steps (w : World) : List Mark → World → Prop
  | refl : Steps w [] w
  | tail {marks marks' : List Mark} {w' w'' : World} (h : Steps w marks w')
      (h' : w'.Step marks' w'') : Steps w (marks ++ marks') w''

/-- What a world comes to that begins with nothing, while all delays that are asked for lead to
instants. -/
def Reached (marks : List Mark) (w : World) : Prop := initial.Steps marks w

/-- Whether the calls of a world are those that it has accepted, each in one place. -/
structure Accounted (w : World) : Prop where
  /-- It keeps in order what it should. -/
  sound : w.Sound
  /-- Each accepted call is in one place. -/
  tickets : w.items.map Item.ticket = Multiset.range w.calls.length
  /-- Each item is of a call of one of the clients. -/
  owned : ∀ x ∈ w.items, ∃ c, x.IsOf c ∧ c.client < w.members.length

/-- What a step does to the calls of a world. -/
inductive Changes (w : World) : List Mark → World → Prop
  /-- All calls stay where they are. -/
  | stay {w' : World} (hcalls : w'.calls.length = w.calls.length) (hitems : w'.items = w.items) :
      Changes w [] w'
  /-- One call gets to its next place. -/
  | advance {w' : World} {marks : List Mark} {x y : Item} {rest : Multiset Item}
      (hcalls : w'.calls.length = w.calls.length) (hbefore : w.items = x ::ₘ rest)
      (hafter : w'.items = y ::ₘ rest) (h : Advance x marks y) : Changes w marks w'
  /-- A new call is queued. -/
  | accept {w' : World} {k : Nat} {payload : Payload} {mode : Mode} {decided : Option Event}
      (hcalls : w'.calls.length = w.calls.length + 1) (hk : k < w.members.length)
      (hhonest : (Job.fresh w.calls.length payload mode decided).IsHonest)
      (hitems : w'.items = .queued k (.fresh w.calls.length payload mode decided) ::ₘ w.items) :
      Changes w [] w'

/-- Whether a world comes from another one by a step that does no more than that. -/
structure Moves (w : World) (marks : List Mark) (w' : World) : Prop where
  /-- It keeps in order what it should. -/
  sound : w'.Sound
  /-- No clients go. -/
  members : w.members.length ≤ w'.members.length
  /-- The calls do not change but in one place. -/
  changes : w.Changes marks w'

/-- Whether a world comes from another one while all calls stay where they are. -/
structure Stays (w w' : World) : Prop where
  /-- It keeps in order what it should. -/
  sound : w'.Sound
  /-- No clients go. -/
  members : w.members.length ≤ w'.members.length
  /-- It counts the same calls. -/
  calls : w'.calls.length = w.calls.length
  /-- It has the same calls. -/
  items : w'.items = w.items

/-- Whether a world comes from another one while one call gets from one place to another. -/
structure Carries (w : World) (x y : Item) (w' : World) : Prop where
  /-- It keeps in order what it should. -/
  sound : w'.Sound
  /-- No clients go. -/
  members : w.members.length ≤ w'.members.length
  /-- It counts the same calls. -/
  calls : w'.calls.length = w.calls.length
  /-- The other calls stay where they are. -/
  items : ∃ rest, w.items = x ::ₘ rest ∧ w'.items = y ::ₘ rest

variable {w w' w'' w₀ : World} {k n : Nat} {m : Member} {marks marks' : List Mark} {x y : Item}
  {a : Action} {j : Job} {reply : StoreReply}

theorem Adds.stays (h : w.Adds w' 0) : w.Stays w' :=
  ⟨h.sound, h.members.ge, h.calls, h.items.trans (zero_add _)⟩

theorem Stays.moves (h : w.Stays w') : w.Moves [] w' :=
  ⟨h.sound, h.members, .stay h.calls h.items⟩

/-- A call is taken, and put to another place. -/
theorem Adds.carries (hx : w₀.Adds w {x}) (hy : w₀.Adds w' {y}) : w.Carries x y w' :=
  ⟨hy.sound, (hy.members.trans hx.members.symm).ge, hy.calls.trans hx.calls.symm, w₀.items,
    hx.items, hy.items⟩

theorem Carries.moves (h : w.Carries x y w') (hxy : Advance x marks y) : w.Moves marks w' := by
  obtain ⟨rest, hbefore, hafter⟩ := h.items
  exact ⟨h.sound, h.members, .advance h.calls hbefore hafter hxy⟩

theorem Accounted.ticket_lt (hw : w.Accounted) (hx : x ∈ w.items) : x.ticket < w.calls.length := by
  rw [← Multiset.mem_range, ← hw.tickets]
  exact Multiset.mem_map_of_mem _ hx

/-- A call that has been taken is one that the world had. -/
theorem Adds.mem (h : w₀.Adds w {x}) : x ∈ w.items := h.items ▸ Multiset.mem_cons_self ..

theorem Accounted.ticket_lt_of_adds (hw : w.Accounted) (h : w₀.Adds w {x}) :
    x.ticket < w₀.calls.length :=
  h.calls ▸ hw.ticket_lt h.mem

/-! ## Work -/

/-- What differs in one item is the same without it. -/
theorem exists_cons_of_add_singleton_eq {xs ys : Multiset Item} (hne : x ≠ y)
    (h : ys + {x} = {y} + xs) : ∃ rest, xs = x ::ₘ rest ∧ ys = y ::ₘ rest := by
  have hx : x ∈ {y} + xs := h ▸ Multiset.mem_add.mpr (.inr (Multiset.mem_singleton_self x))
  have hxs : x ∈ xs := by simpa [hne] using hx
  obtain ⟨rest, rfl⟩ := Multiset.exists_cons_of_mem hxs
  refine ⟨rest, rfl, add_right_cancel (b := {x}) (h.trans ?_)⟩
  rw [← Multiset.singleton_add, ← Multiset.singleton_add]
  ac_rfl

/-- A call is taken out of a processor. -/
theorem Sound.adds_take {processor : Processor} (hw : w.Sound) (hm : w.members[k]? = some m)
    (h : m.processor.items k = x ::ₘ processor.items k) :
    (w.updateMember k fun m => { m with processor }).Adds w {x} := by
  refine ⟨hw, ?_, (List.length_modify ..).symm, rfl⟩
  have hitems := items_updateMember hm fun m => { m with processor }
  simp only [Member.items, h, ← Multiset.singleton_add] at hitems
  refine add_left_cancel
    (a := processor.items k + Multiset.ofList (m.held.map fun x => Item.flying k x.1 x.2)) ?_
  rw [← hitems]
  ac_rfl

/-- A processor does something else than its calls ask for. -/
theorem Sound.stays_processor {processor : Processor} (hw : w.Sound) (hm : w.members[k]? = some m)
    (hp : processor.Sound) (hgate : processor.gateOpen = m.processor.gateOpen)
    (h : processor.items k = m.processor.items k) :
    w.Stays (w.updateMember k fun m => { m with processor }) := by
  refine (adds_updateMember hw hm hp (fun hclosed => hgate.trans hclosed) ?_).stays
  rw [Member.items, h, zero_add]
  rfl

/-- A call that came back is parked: it stays with the processor, so nothing is taken out of the
world. -/
theorem Sound.carries_park {processor : Processor} {rest : Multiset Item} (hw : w.Sound)
    (hm : w.members[k]? = some m) (hp : processor.Sound)
    (hgate : processor.gateOpen = m.processor.gateOpen)
    (hbefore : m.processor.items k = .answered k j reply ::ₘ rest)
    (hafter : processor.items k = .parked k j reply ::ₘ rest) :
    w.Carries (.answered k j reply) (.parked k j reply)
      (w.updateMember k fun m => { m with processor }) := by
  have hitems := items_updateMember hm fun m => { m with processor }
  simp only [Member.items, hbefore, hafter, ← Multiset.singleton_add] at hitems
  have hitems' : (w.updateMember k fun m => { m with processor }).items + {.answered k j reply} =
      {.parked k j reply} + w.items := by
    refine add_right_cancel
      (b := rest + Multiset.ofList (m.held.map fun x => Item.flying k x.1 x.2)) ?_
    rw [add_assoc, ← add_assoc {_} rest, hitems]
    ac_rfl
  exact ⟨hw.updateMember hm hp fun h => hgate.trans h, (List.length_modify ..).ge, rfl,
    exists_cons_of_add_singleton_eq (by simp) hitems'⟩

/-- What a client's processor is about to do is taken from its calls. -/
theorem Accounted.moves_act {processor : Processor} (hw : w.Accounted) (hm : w.members[k]? = some m)
    (hp : processor.Sound) (hgate : processor.gateOpen = m.processor.gateOpen)
    (hturn : Turn k a (m.processor.items k) (processor.items k)) :
    w.Moves ((w.updateMember k fun m => { m with processor }).marks k a)
      ((w.updateMember k fun m => { m with processor }).act k a) := by
  have hsound : (w.updateMember k fun m => { m with processor }).Sound :=
    hw.sound.updateMember hm hp fun h => hgate.trans h
  have hm₀ : (w.updateMember k fun m => { m with processor }).members[k]? =
      some { m with processor } :=
    getElem?_updateMember hm _
  have hk₀ := (List.getElem?_eq_some_iff.mp hm₀).1
  generalize hxs : m.processor.items k = xs, hys : processor.items k = ys at hturn
  have htaken {x : Item} (h : xs = x ::ₘ ys) :
      (w.updateMember k fun m => { m with processor }).Adds w {x} :=
    hw.sound.adds_take hm (by rw [hxs, hys, h])
  cases hturn with
  | idle => exact (hw.sound.stays_processor hm hp hgate (hys.trans hxs.symm)).moves
  | parked => exact (hw.sound.carries_park hm hp hgate hxs hys).moves .parked
  | @first j =>
    have hx := htaken rfl
    obtain ⟨c, ⟨-, hhonest⟩, -⟩ := hw.owned _ hx.mem
    obtain ⟨y, hy, hadds⟩ := exists_adds_perform hsound hk₀ (hw.ticket_lt_of_adds hx) hhonest
    exact (hx.carries hadds).moves (.first hy)
  | @again j reply =>
    have hx := htaken rfl
    obtain ⟨c, ⟨-, hhonest⟩, -⟩ := hw.owned _ hx.mem
    obtain ⟨y, hy, hadds⟩ := exists_adds_perform (j := j.retried) hsound hk₀
      (hw.ticket_lt_of_adds hx) hhonest
    exact (hx.carries hadds).moves (.again hy)
  | @settled j reply =>
    have hx := htaken rfl
    obtain ⟨y, hy, hadds⟩ := exists_adds_finish hsound hm₀ (hw.ticket_lt_of_adds hx)
      (.processor k) reply
    exact (hx.carries hadds).moves (.settled (hy.ends (Job.isAbout_outcome ..)))
  | @given j reply =>
    have hx := htaken rfl
    obtain ⟨y, hy, hadds⟩ := exists_adds_finish hsound hm₀ (hw.ticket_lt_of_adds hx)
      (.processor k) reply
    exact (hx.carries hadds).moves (.given (hy.ends (Job.isAbout_outcome ..)))

/-- A reply is taken. Replies are so in any order, so the one that is may stand anywhere. -/
theorem Sound.adds_of_incoming {r : IncomingReply} {front back : List IncomingReply}
    (hw : w.Sound) (h : w.incoming = front ++ r :: back) :
    ({ w with incoming := front ++ back } : World).Adds w {r.item} := by
  refine ⟨hw, ?_, rfl, rfl⟩
  have hincoming : (↑(w.incoming.map IncomingReply.item) : Multiset Item) =
      {r.item} + ↑((front ++ back).map IncomingReply.item) := by
    rw [h, List.map_append, List.map_append, List.map_cons, ← Multiset.coe_add,
      ← Multiset.coe_add, ← Multiset.cons_coe, ← Multiset.singleton_add]
    ac_rfl
  simp only [World.items, hincoming]
  ac_rfl

/-- A reply comes in. -/
theorem Accounted.exists_carries_receive {r : IncomingReply} {front back : List IncomingReply}
    (hw : w.Accounted) (h : w.incoming = front ++ r :: back) :
    ∃ m y, w.members[r.client]? = some m ∧
      y.Meets m.client.space r.client r.job (tampered m.tampering r.reply).1 ∧
      w.Carries r.item y ({ w with incoming := front ++ back }.receive r) := by
  have hx := hw.sound.adds_of_incoming h
  have hsound : ({ w with incoming := front ++ back } : World).Sound :=
    ⟨hw.sound.processors, hw.sound.threads, hw.sound.waiting⟩
  obtain ⟨c, ⟨hcall, -⟩, hclient⟩ := hw.owned _ hx.mem
  have hk : r.client < w.members.length := by
    rwa [← hcall] at hclient
  have hm : ({ w with incoming := front ++ back } : World).members[r.client]? = some _ :=
    List.getElem?_eq_getElem hk
  obtain ⟨y, hy, hadds⟩ := exists_adds_receive hsound hm (hw.ticket_lt_of_adds hx)
  exact ⟨_, y, hm, hy, hx.carries hadds⟩

/-- A reply that was held back is taken. -/
theorem Sound.adds_of_held {held : List (Job × StoreReply)} (hw : w.Sound)
    (hm : w.members[k]? = some m) (hheld : m.held = (j, reply) :: held) :
    (w.updateMember k fun m => { m with held }).Adds w {.flying k j reply} := by
  refine ⟨hw, ?_, (List.length_modify ..).symm, rfl⟩
  have hitems := items_updateMember hm fun m => { m with held }
  simp only [Member.items, hheld, List.map_cons, ← Multiset.cons_coe] at hitems
  refine add_left_cancel
    (a := m.processor.items k + Multiset.ofList (held.map fun x => Item.flying k x.1 x.2)) ?_
  rw [← hitems, ← Multiset.singleton_add]
  ac_rfl

/-- What is let go is the first reply that was held back. -/
theorem exists_held_of_release (h : (w.release k).1) :
    ∃ m j reply held, w.members[k]? = some m ∧ m.held = (j, reply) :: held ∧
      (w.release k).2 =
        (w.updateMember k fun m => { m with held }).complete k .main j reply := by
  unfold release at h ⊢
  split at h
  · rename_i j reply held hheld
    obtain ⟨m, hm, hmheld⟩ := Option.map_eq_some_iff.mp hheld
    exact ⟨m, j, reply, held, hm, hmheld, rfl⟩
  · cases h

/-- A reply that was held back is let go. -/
theorem Accounted.exists_carries_release (hw : w.Accounted) (h : (w.release k).1) :
    ∃ m j reply y, w.members[k]? = some m ∧ y.Meets m.client.space k j reply ∧
      w.Carries (.flying k j reply) y (w.release k).2 := by
  obtain ⟨m, j, reply, held, hm, hheld, hreleased⟩ := exists_held_of_release h
  rw [hreleased]
  have hsound : (w.updateMember k fun m => { m with held }).Sound :=
    hw.sound.updateMember hm (f := fun m => { m with held }) (hw.sound.processors k m hm) id
  have hm₀ : (w.updateMember k fun m => { m with held }).members[k]? = some { m with held } :=
    getElem?_updateMember hm _
  have hx := hw.sound.adds_of_held hm hheld
  obtain ⟨y, hy, hadds⟩ := exists_adds_complete hsound hm₀ (hw.ticket_lt_of_adds hx) .main reply
  exact ⟨m, j, reply, y, hm, .inr hy, hx.carries hadds⟩

/-! ## The threads for callbacks -/

@[simp] theorem workers_tellings (w : World) (k ticket : Nat) (t : Thread)
    (tellings : List Telling) : (tellings.foldl (tell k ticket t) w).workers = w.workers := by
  induction tellings generalizing w with
  | nil => rfl
  | cons x tellings ih =>
    rw [List.foldl_cons, ih]
    cases x <;> rfl

@[simp] theorem workers_note (w : World) (k : Nat) (t : Thread) (d : Delivery) :
    (w.note k t d).workers = w.workers := by
  unfold note
  split
  · rfl
  · exact workers_tellings w k d.ticket t _

@[simp] theorem workers_endClose (w : World) (k : Nat) : (w.endClose k).workers = w.workers := by
  unfold endClose
  split <;> rfl

@[simp] theorem workers_react (w : World) (k : Nat) (m : Member) (r : Reaction) :
    (w.react k m r).workers = w.workers := by
  unfold react
  split
  · split
    · rfl
    · exact workers_endClose ..
  · rfl
  · rfl

theorem workers_run (w : World) (k : Nat) (t : Thread) (d : Delivery) :
    (w.run k t d).workers = w.workers := by
  unfold run
  split
  · rw [workers_note, workers_react]
  · exact workers_note ..

theorem Sound.updateWorker {f : Worker → Worker} {x : Worker} {i : Nat} (hw : w.Sound)
    (hx : w.workers[i]? = some x) (hid : (f x).id = x.id)
    (hwaits : (f x).waits → ∃ (k : Nat) (d : Delivery) (queue : List (Nat × Delivery)) (m : Member),
      (f x).queue = (k, d) :: queue ∧ w.members[k]? = some m ∧ m.processor.gateOpen = false) :
    (w.updateWorker i f).Sound where
  processors := hw.processors
  threads := by
    have hids : (w.workers.modify i f).map (·.id) = w.workers.map (·.id) := by
      refine List.ext_getElem? fun n => ?_
      by_cases hn : i = n
      · subst hn
        simp [hx, hid]
      · simp [hn]
    exact hids ▸ hw.threads
  waiting := by
    intro y hy hyw
    obtain ⟨n, hn⟩ := List.getElem?_of_mem hy
    simp only [World.updateWorker, List.getElem?_modify] at hn
    by_cases hi : i = n
    · subst hi
      simp only [hx, if_true, Option.map_eq_map, Option.map_some, Option.some.injEq] at hn
      subst hn
      exact hwaits hyw
    · simp only [hi, if_false, id_map'] at hn
      exact hw.waiting y (List.mem_of_getElem? hn) hyw

/-- A thread that has made its delivery. -/
theorem items_updateWorker_done {x : Worker} {i : Nat} {d : Delivery}
    {queue : List (Nat × Delivery)} (hx : w.workers[i]? = some x)
    (hqueue : x.queue = (k, d) :: queue) :
    w.items = .handed k d ::ₘ (w.updateWorker i Worker.done).items := by
  have hgathered := gather_modify_add (f := fun _ (x : Worker) => x.items) hx Worker.done
  have hitems : x.items = {.handed k d} + (Worker.done x).items := by
    simp [Worker.items, Worker.done, hqueue]
  rw [hitems] at hgathered
  have hworkers : gather (fun _ (x : Worker) => x.items) w.workers =
      {.handed k d} + gather (fun _ x => x.items) (w.workers.modify i Worker.done) := by
    refine add_left_cancel (a := (Worker.done x).items) ?_
    rw [← hgathered]
    ac_rfl
  simp only [World.items, updateWorker, hworkers, ← Multiset.singleton_add]
  ac_rfl

/-- A thread makes a delivery. -/
theorem Adds.carries_done {i : Nat} {x : Worker} {d : Delivery} {queue : List (Nat × Delivery)}
    (hx : w.workers[i]? = some x) (hqueue : x.queue = (k, d) :: queue)
    (hadds : w.Adds w' {.delivered d.ticket d.event}) (hworkers : w'.workers = w.workers) :
    w.Carries (.handed k d) (.delivered d.ticket d.event) (w'.updateWorker i Worker.done) := by
  have hx' : w'.workers[i]? = some x := hworkers ▸ hx
  -- the delivery leaves the same thread before what it does and after
  have hbefore := items_updateWorker_done hx hqueue
  have hafter := items_updateWorker_done hx' hqueue
  refine ⟨?_, hadds.members.ge, hadds.calls, _, hbefore, ?_⟩
  · exact hadds.sound.updateWorker hx' rfl fun h => by cases h
  · rw [hadds.items, hbefore, Multiset.singleton_add, Multiset.cons_swap] at hafter
    exact ((Multiset.cons_inj_right _).mp hafter).symm

/-- A thread whose callback closes the client waits for the client's processor to end. -/
theorem Accounted.stays_wait {i : Nat} {x : Worker} {d : Delivery} {queue : List (Nat × Delivery)}
    (hw : w.Accounted) (hx : w.workers[i]? = some x) (hqueue : x.queue = (k, d) :: queue)
    (hm : w.members[k]? = some m) :
    w.Stays ((w.beginClose k).updateWorker i fun x => { x with waits := true }) := by
  have hbegun := adds_beginClose hw.sound k
  have hp := hw.sound.processors k m hm
  have hx' : (w.beginClose k).workers[i]? = some x := hx
  refine ⟨hbegun.sound.updateWorker hx' rfl fun _ => ?_, hbegun.members.ge, hbegun.calls, ?_⟩
  · -- the client it waits for has been told to shut down
    exact ⟨k, d, queue, _, hqueue, by simp [beginClose, updateMember, hm]; rfl,
      hp.gateOpen_shutdown⟩
  · have hitems : gather (fun _ (x : Worker) => x.items)
        ((w.beginClose k).workers.modify i fun x => { x with waits := true }) =
          gather (fun _ x => x.items) (w.beginClose k).workers :=
      gather_modify_eq fun _ => rfl
    simp only [World.items, updateWorker, hitems]
    exact hbegun.items.trans (zero_add _)

/-- What a thread for callbacks does in a step. It makes the first delivery of its queue; but if the
callback closes the client, the thread waits first until the client's processor has ended. -/
inductive Serves (w : World) (i : Nat) : World → Prop
  /-- The client is gone. -/
  | gone {x : Worker} {k : Nat} {d : Delivery} {queue : List (Nat × Delivery)}
      (hx : w.workers[i]? = some x) (hqueue : x.queue = (k, d) :: queue)
      (hm : w.members[k]? = none) : Serves w i (w.updateWorker i Worker.done)
  /-- It has waited, and goes on. -/
  | resumes {x : Worker} {k : Nat} {d : Delivery} {queue : List (Nat × Delivery)} {m : Member}
      (hx : w.workers[i]? = some x) (hqueue : x.queue = (k, d) :: queue)
      (hm : w.members[k]? = some m) (hwaits : x.waits) (hended : m.processor.hasEnded) :
      Serves w i (((w.endClose k).note k (.worker x.id) d).updateWorker i Worker.done)
  /-- It begins to wait. -/
  | waits {x : Worker} {k : Nat} {d : Delivery} {queue : List (Nat × Delivery)} {m : Member}
      (hx : w.workers[i]? = some x) (hqueue : x.queue = (k, d) :: queue)
      (hm : w.members[k]? = some m) (hwaits : ¬x.waits)
      (hclose : d.callback = some .close ∧ !m.client.closed) :
      Serves w i ((w.beginClose k).updateWorker i fun x => { x with waits := true })
  /-- It makes the delivery. -/
  | runs {x : Worker} {k : Nat} {d : Delivery} {queue : List (Nat × Delivery)} {m : Member}
      (hx : w.workers[i]? = some x) (hqueue : x.queue = (k, d) :: queue)
      (hm : w.members[k]? = some m) (hwaits : ¬x.waits)
      (hclose : ¬(d.callback = some .close ∧ !m.client.closed)) :
      Serves w i ((w.run k (.worker x.id) d).updateWorker i Worker.done)

theorem serves_of_stepWorker? {i : Nat} (h : w.stepWorker? i = some w') : w.Serves i w' := by
  unfold stepWorker? at h
  split at h
  · cases h
  · rename_i x hx
    split at h
    · cases h
    · rename_i k d queue hqueue
      split at h
      · rename_i hm
        cases h
        exact .gone hx hqueue hm
      · rename_i m hm
        split at h
        · rename_i hwaits
          split at h
          · rename_i hended
            cases h
            exact .resumes hx hqueue hm hwaits hended
          · cases h
        · rename_i hwaits
          split at h
          · rename_i hclose
            cases h
            exact .waits hx hqueue hm hwaits hclose
          · rename_i hclose
            cases h
            exact .runs hx hqueue hm hwaits hclose

/-- The first delivery in the queue of a thread is for a client that is there. -/
theorem Accounted.of_queue {i : Nat} {x : Worker} {d : Delivery} {queue : List (Nat × Delivery)}
    (hw : w.Accounted) (hx : w.workers[i]? = some x) (hqueue : x.queue = (k, d) :: queue) :
    k < w.members.length ∧ d.ticket < w.calls.length := by
  have hmem : Item.handed k d ∈ w.items :=
    items_updateWorker_done hx hqueue ▸ Multiset.mem_cons_self ..
  obtain ⟨c, ⟨rfl, -⟩, hk⟩ := hw.owned _ hmem
  exact ⟨hk, hw.ticket_lt hmem⟩

/-- When a thread goes on that has waited, it makes its delivery. -/
theorem Sound.adds_resume (hw : w.Sound) (hk : k < w.members.length) {d : Delivery}
    (hd : d.ticket < w.calls.length) (t : Thread) :
    w.Adds ((w.endClose k).note k t d) {.delivered d.ticket d.event} := by
  have hended := adds_endClose hw k
  exact hended.after (adds_note hended.sound (List.getElem?_eq_getElem (hended.members ▸ hk))
    (hended.calls ▸ hd) t)

/-- A thread for callbacks takes its next step: it makes a delivery, or begins to wait. -/
theorem Accounted.stays_or_carries_deliver {i : Nat} (hw : w.Accounted)
    (h : w.stepWorker? i = some w') :
    w.Stays w' ∨ ∃ k d, w.Carries (.handed k d) (.delivered d.ticket d.event) w' := by
  cases serves_of_stepWorker? h with
  | gone hx hqueue hm =>
    obtain ⟨hk, -⟩ := hw.of_queue hx hqueue
    exact absurd (List.getElem?_eq_none_iff.mp hm) (Nat.not_le.mpr hk)
  | @resumes x k d _ _ hx hqueue =>
    obtain ⟨hk, hd⟩ := hw.of_queue hx hqueue
    exact .inr ⟨k, d, (hw.sound.adds_resume hk hd _).carries_done hx hqueue (by simp)⟩
  | waits hx hqueue hm => exact .inl (hw.stays_wait hx hqueue hm)
  | @runs x k d _ _ hx hqueue =>
    obtain ⟨hk, hd⟩ := hw.of_queue hx hqueue
    exact .inr ⟨k, d, (adds_run hw.sound hk hd _).carries_done hx hqueue (workers_run ..)⟩

/-- **A piece of work leaves all calls where they are**, but for one that gets to its next place. -/
theorem Accounted.moves (hw : w.Accounted) (h : w.Progress marks w') : w.Moves marks w' := by
  cases h with
  | @process k m delay? a processor hm hdelay hstep =>
    obtain ⟨hp, hgate, hturn⟩ := (hw.sound.processors k m hm).step hdelay hstep
    exact hw.moves_act hm hp hgate hturn
  | @clear k id m j reply processor hm hphase hqueue hid hprocessor =>
    subst hprocessor
    refine hw.moves_act (a := .finish j reply) hm
      ((hw.sound.processors k m hm).clear hphase hqueue hid) rfl ?_
    rw [Processor.items_erase hid]
    exact .given
  | receive h =>
    obtain ⟨m, y, -, hy, hcarries⟩ := hw.exists_carries_receive h
    exact hcarries.moves hy.advance
  | release h =>
    obtain ⟨m, j, reply, y, -, hy, hcarries⟩ := hw.exists_carries_release h
    exact hcarries.moves hy.advance
  | deliver h =>
    rcases hw.stays_or_carries_deliver h with hstays | ⟨k, d, hcarries⟩
    · exact hstays.moves
    · exact hcarries.moves .delivered

/-! ## Everything else -/

/-- An accepted call is queued under the next number. -/
theorem Sound.items_enqueue {payload : Payload} {mode : Mode} (hw : w.Sound)
    (hm : w.members[k]? = some m) (h : w.enqueue k m payload mode = (.ok n, w')) :
    n = w.calls.length ∧ w'.Sound ∧ w'.members.length = w.members.length ∧
      w'.calls.length = w.calls.length + 1 ∧
      w'.items = .queued k (.fresh n payload mode (if w.store.isConnected m.session then none
        else some (Event.failed payload.type payload.path? .sessionExpired))) ::ₘ w.items := by
  have hp := hw.processors k m hm
  unfold enqueue at h
  dsimp only at h
  rw [hp.enqueue?_eq] at h
  by_cases hgate : m.processor.gateOpen
  · rw [if_pos hgate] at h
    cases h
    generalize (if w.store.isConnected m.session then none
      else some (Event.failed payload.type payload.path? .sessionExpired)) = decided
    -- first the call is counted, then it is queued
    generalize hlog : (⟨mode.errorListener.isSome, [], [], []⟩ : CallLog) = log
    generalize hcounted : ({ w with calls := w.calls ++ [log] } : World) = w₁
    have hsound : w₁.Sound := hcounted ▸ ⟨hw.processors, hw.threads, hw.waiting⟩
    have hm₁ : w₁.members[k]? = some m := hcounted ▸ hm
    have hitems₁ : w₁.items = w.items := by
      rw [← hcounted, ← hlog]
      simp only [World.items, gather_append, CallLog.items, List.map_nil, Multiset.coe_nil,
        zero_add]
    have hadds : w₁.Adds
        (w₁.updateMember k fun m' => { m' with
          processor := m.processor.push (.submit (.fresh w.calls.length payload mode decided)) })
        {.queued k (.fresh w.calls.length payload mode decided)} := by
      refine adds_updateMember hsound hm₁ (hp.push hgate (by simp)) id ?_
      rw [Member.items, Processor.items_push, add_assoc]
      rfl
    refine ⟨rfl, hadds.sound, ?_, ?_, hitems₁ ▸ hadds.items⟩
    · rw [hadds.members, ← hcounted]
    · rw [hadds.calls, ← hcounted, List.length_append, List.length_singleton]
  · rw [if_neg hgate] at h
    cases h

theorem Sound.enqueue_eq_ok {payload : Payload} {mode : Mode} (hw : w.Sound)
    (hm : w.members[k]? = some m) (h : w.enqueue k m payload mode = (.ok n, w')) :
    n = w.calls.length ∧ w.Moves [] w' ∧ ∃ x ∈ w'.items, x.IsOf ⟨k, n, payload, mode⟩ := by
  have hk : k < w.members.length := (List.getElem?_eq_some_iff.mp hm).1
  obtain ⟨rfl, hsound, hmembers, hcalls, hitems⟩ := hw.items_enqueue hm h
  have hhonest : (Job.fresh w.calls.length payload mode (if w.store.isConnected m.session then none
      else some (Event.failed payload.type payload.path? .sessionExpired))).IsHonest := by
    intro e he
    simp only [Job.fresh] at he
    split at he
    · cases he
    · cases he
      exact Event.isAbout_failed ..
  exact ⟨rfl, ⟨hsound, hmembers.ge, .accept hcalls hk hhonest hitems⟩, .queued k _,
    hitems ▸ Multiset.mem_cons_self .., rfl, hhonest⟩

/-- A refused call leaves nothing behind. -/
theorem Sound.enqueue_eq_error {payload : Payload} {mode : Mode} {f : Failure} (hw : w.Sound)
    (hm : w.members[k]? = some m) (h : w.enqueue k m payload mode = (.error f, w')) :
    f = .shuttingDown ∧ w' = w ∧ m.processor.gateOpen = false := by
  have hp := hw.processors k m hm
  unfold enqueue at h
  dsimp only at h
  rw [hp.enqueue?_eq] at h
  by_cases hgate : m.processor.gateOpen
  · rw [if_pos hgate] at h
    cases h
  · rw [if_neg hgate] at h
    cases h
    exact ⟨rfl, rfl, by simpa using hgate⟩

/-- A dead processor takes no calls. -/
theorem enqueue_of_dead {payload : Payload} {mode : Mode} (h : m.processor.phase = .dead) :
    w.enqueue k m payload mode = (.error .shuttingDown, w) := by
  have henqueue (j : Job) : m.processor.enqueue? j = none := by
    simp [Processor.enqueue?, Processor.accepts, h]
  simp only [enqueue, henqueue]

/-- A client starts with no calls. -/
theorem Sound.stays_start {s : Session} {t : Tampering} {c : Config} (hw : w.Sound)
    (h : w.start s t c = .ok (k, w')) : w.Stays w' := by
  unfold start at h
  cases hstart : Client.start c with
  | error f => rw [hstart] at h; cases h
  | ok client =>
    rw [hstart] at h
    cases h
    refine ⟨⟨?_, hw.threads, ?_⟩, by simp, rfl, ?_⟩
    · intro i m hm
      rcases List.mem_append.mp (List.mem_of_getElem? hm) with hmem | hmem
      · obtain ⟨i, hi⟩ := List.getElem?_of_mem hmem
        exact hw.processors i m hi
      · obtain rfl := List.mem_singleton.mp hmem
        exact Processor.sound_initial
    · intro x hx hwaits
      obtain ⟨i, d, queue, m, hqueue, hm, hclosed⟩ := hw.waiting x hx hwaits
      have hi : i < w.members.length := (List.getElem?_eq_some_iff.mp hm).1
      exact ⟨i, d, queue, m, hqueue, by rw [List.getElem?_append_left hi, hm], hclosed⟩
    · simp only [World.items, gather_append, Member.items, Processor.items_initial, List.map_nil,
        Multiset.coe_nil, zero_add]

/-- What happens elsewhere leaves all calls where they are. -/
theorem Sound.stays_elsewhere (hw : w.Sound) (h : w.Elsewhere w') : w.Stays w' := by
  have hmembers : w'.members.length = w.members.length := by
    simpa using congrArg List.length h.members
  have hcalls : w'.calls.length = w.calls.length := by
    simpa using congrArg List.length h.calls
  have hgathered (w : World) : w.items =
      gather (fun k (x : Processor × List (Job × StoreReply)) =>
        x.1.items k + ↑(x.2.map fun y => Item.flying k y.1 y.2))
        (w.members.map fun m => (m.processor, m.held)) + ↑(w.incoming.map IncomingReply.item) +
      gather (fun _ x => x.items) w.workers +
      gather (fun n (ds : List Event) => ↑(ds.map (Item.delivered n)))
        (w.calls.map (·.deliveries)) := by
    rw [gather_map, gather_map]
    rfl
  -- a client here is a client there, with the same processor
  have hmember {w w' : World} (h : w'.members.map (fun m => (m.processor, m.held)) =
      w.members.map fun m => (m.processor, m.held)) {i : Nat} {m : Member}
      (hm : w'.members[i]? = some m) :
      ∃ m₀, w.members[i]? = some m₀ ∧ m₀.processor = m.processor := by
    have hi := congrArg (·[i]?) h
    simp only [List.getElem?_map, hm, Option.map_some] at hi
    obtain ⟨m₀, hm₀, heq⟩ := Option.map_eq_some_iff.mp hi.symm
    exact ⟨m₀, hm₀, congrArg Prod.fst heq⟩
  refine ⟨⟨?_, h.workers ▸ hw.threads, ?_⟩, hmembers.ge, hcalls, ?_⟩
  · intro i m hm
    obtain ⟨m₀, hm₀, hp⟩ := hmember h.members hm
    exact hp ▸ hw.processors i m₀ hm₀
  · intro x hx hwaits
    obtain ⟨i, d, queue, m, hqueue, hm, hclosed⟩ := hw.waiting x (h.workers ▸ hx) hwaits
    obtain ⟨m', hm', hp⟩ := hmember h.members.symm hm
    exact ⟨i, d, queue, m', hqueue, hm', hp ▸ hclosed⟩
  · rw [hgathered, hgathered, h.members, h.incoming, h.workers, h.calls]

/-- **What a step does to the calls of a world.** -/
theorem Accounted.step (hw : w.Accounted) (h : w.Step marks w') : w.Moves marks w' := by
  cases h with
  | progress h => exact hw.moves h
  | accept hm h => exact (hw.sound.enqueue_eq_ok hm h).2.1
  | shutdown k => exact (adds_beginClose hw.sound k).stays.moves
  | start h => exact (hw.sound.stays_start h).moves
  | elsewhere h => exact (hw.sound.stays_elsewhere h).moves

/-- Every call stays accounted for. -/
theorem Accounted.of_moves (hw : w.Accounted) (h : w.Moves marks w') : w'.Accounted := by
  obtain ⟨hsound, hmembers, hchanges⟩ := h
  cases hchanges with
  | stay hcalls hitems =>
    refine ⟨hsound, ?_, ?_⟩
    · rw [hitems, hcalls, hw.tickets]
    · intro x hx
      obtain ⟨c, hc, hclient⟩ := hw.owned x (hitems ▸ hx)
      exact ⟨c, hc, hclient.trans_le hmembers⟩
  | @advance _ _ x y rest hcalls hbefore hafter h =>
    obtain ⟨c, hc, hclient⟩ := hw.owned x (hbefore ▸ Multiset.mem_cons_self ..)
    have hy : y.IsOf c := h.isOf hc
    -- the item before and the item after are of the same call
    refine ⟨hsound, ?_, ?_⟩
    · rw [hcalls, ← hw.tickets, hbefore, hafter, Multiset.map_cons, Multiset.map_cons,
        hy.ticket_eq, hc.ticket_eq]
    · intro z hz
      rw [hafter, Multiset.mem_cons] at hz
      rcases hz with rfl | hz
      · exact ⟨c, hy, hclient.trans_le hmembers⟩
      · obtain ⟨c, hc, hclient⟩ := hw.owned z (hbefore ▸ Multiset.mem_cons_of_mem hz)
        exact ⟨c, hc, hclient.trans_le hmembers⟩
  | @accept _ k payload mode decided hcalls hk hhonest hitems =>
    refine ⟨hsound, ?_, ?_⟩
    · rw [hitems, Multiset.map_cons, hw.tickets, hcalls, Multiset.range_succ]
      rfl
    · intro x hx
      rw [hitems, Multiset.mem_cons] at hx
      rcases hx with rfl | hx
      · exact ⟨_, ⟨rfl, hhonest⟩, hk.trans_le hmembers⟩
      · obtain ⟨c, hc, hclient⟩ := hw.owned x hx
        exact ⟨c, hc, hclient.trans_le hmembers⟩

/-- A call stays in the world. -/
theorem Moves.exists_isOf {c : Call} (h : w.Moves marks w') (hc : ∃ x ∈ w.items, x.IsOf c) :
    ∃ x ∈ w'.items, x.IsOf c := by
  obtain ⟨z, hz, hzc⟩ := hc
  cases h.changes with
  | stay _ hitems => exact ⟨z, hitems ▸ hz, hzc⟩
  | @advance _ _ x y rest _ hbefore hafter h =>
    rw [hbefore, Multiset.mem_cons] at hz
    rcases hz with rfl | hz
    · exact ⟨y, hafter ▸ Multiset.mem_cons_self .., h.isOf hzc⟩
    · exact ⟨z, hafter ▸ Multiset.mem_cons_of_mem hz, hzc⟩
  | accept _ _ _ hitems => exact ⟨z, hitems ▸ Multiset.mem_cons_of_mem hz, hzc⟩

theorem accounted_initial : initial.Accounted where
  sound :=
    { processors := fun k m h => by simp [initial] at h
      threads := .nil
      waiting := fun x hx => by simp [initial] at hx }
  tickets := rfl
  owned := fun x hx => by simp [World.items, initial, gather] at hx

theorem Accounted.steps (hw : w.Accounted) (h : w.Steps marks w') : w'.Accounted := by
  induction h with
  | refl => exact hw
  | tail _ h' ih => exact ih.of_moves (ih.step h')

theorem Steps.trans (h : w.Steps marks w') (h' : w'.Steps marks' w'') :
    w.Steps (marks ++ marks') w'' := by
  induction h' with
  | refl => rwa [List.append_nil]
  | tail _ hstep ih => exact List.append_assoc .. ▸ ih.tail hstep

/-- In what a world comes to that begins with nothing, every call is accounted for. -/
theorem Reached.accounted (h : Reached marks w) : w.Accounted := accounted_initial.steps h

end World

end Coordination
