import Coordination.Proofs.Background.Deaths
import Coordination.Proofs.Background.Hearing

/-!
# The chronicle of a world

A step of a world brings at most one call from one place to the next, and it tells of that call
what has to be told on this way and nothing of the others. So along a run a chronicle can be kept of
all the words that are uttered: everybody has heard exactly what was for him, and what has been told
about a call is told by the place where the call is. No callback and no listener changes that by
panicking.

## Main definitions

* `World.Voices`, `World.Speaks`: what is told when a call gets from one place to the next, and what
  a step tells
* `World.Recorded`: a world with the worlds before it and the calls that were accepted
* `Call.Hears`: what has been told about a call that is at some place
* `World.Chronicle`: all the words that have been said in a world

## Main results

* `World.Accounted.speaks`: what a piece of work tells
* `World.Recorded.exists_chronicle`: every run has a chronicle
* `World.Recorded.routed`: failures are routed to whom they should be, each once
* `World.unheard_of_strained`: nobody hears of a call whose wait leads beyond the last instant
-/

namespace Coordination

namespace World

variable {w w' w₀ : World} {k n : Nat} {m : Member} {t : Thread} {d : Delivery} {c : Call}
  {marks : List Mark} {x y : Item}

/-! ## Steps -/

/-- **What is told when a call gets from one place to the next.** -/
inductive Voices (w : World) : Item → Nat → List Telling → Item → Prop
  /-- It gets to a place from one where it waits for its event. -/
  | gets {c : Call} {m : Member} {x y : Item} {told : List Telling} (hx : x.call? = some c)
      (hm : w.members[c.client]? = some m) (h : c.Gets x w m told y) :
      Voices w x c.client told y
  /-- Its event is delivered. -/
  | delivered {k : Nat} {m : Member} {d : Delivery} (hm : w.members[k]? = some m) :
      Voices w (.handed k d) k (m.tellings d) (.delivered d.ticket d.event)

/-- What a step tells of the calls of a world. -/
inductive Speaks (w : World) : List Word → World → Prop
  /-- All calls stay where they are, and nothing is told. -/
  | stays {w' : World} (hcalls : w'.calls.length = w.calls.length) (hitems : w'.items = w.items) :
      Speaks w [] w'
  /-- One call gets to its next place. -/
  | moves {w' : World} {k : Nat} {t : Thread} {told : List Telling} {x y : Item}
      {rest : Multiset Item} (hcalls : w'.calls.length = w.calls.length)
      (hbefore : w.items = x ::ₘ rest) (hafter : w'.items = y ::ₘ rest)
      (h : w.Voices x k told y) : Speaks w (told.map (Word.mk k x.ticket t)) w'

/-- A call that gets from one place to another is told about as it should be. -/
theorem Carries.speaks {told : List Telling} (h : w.Carries x y w')
    (hutters : w.Utters (told.map (Word.mk k x.ticket t)) w') (hvoices : w.Voices x k told y) :
    ∃ words, w.Utters words w' ∧ w.Speaks words w' := by
  obtain ⟨rest, hbefore, hafter⟩ := h.items
  exact ⟨_, hutters, .moves h.calls hbefore hafter hvoices⟩

/-- A call is taken, and something is done for it. -/
theorem Adds.speaks {told : List Telling} (hx : w₀.Adds w {x}) (hsilent : w.Utters [] w₀)
    (hcall : x.call? = some c) (hm : w.members[c.client]? = some m) (hy : c.Gets x w m told y)
    (hadds : w₀.Adds w' {y})
    (hutters : w₀.Utters (told.map (Word.mk c.client c.ticket t)) w') :
    ∃ words, w.Utters words w' ∧ w.Speaks words w' :=
  (hx.carries hadds).speaks (Item.ticket_of_call? hcall ▸ hsilent.after hutters)
    (.gets hcall hm hy)

/-- What a client's processor is about to do is told of one of its calls. -/
theorem Accounted.speaks_act {processor : Processor} {a : Action} (hw : w.Accounted)
    (hm : w.members[k]? = some m) (hp : processor.Sound)
    (hgate : processor.gateOpen = m.processor.gateOpen)
    (hturn : Turn k a (m.processor.items k) (processor.items k)) :
    ∃ words, w.Utters words ((w.updateMember k fun m => { m with processor }).act k a) ∧
      w.Speaks words ((w.updateMember k fun m => { m with processor }).act k a) := by
  have hsound : (w.updateMember k fun m => { m with processor }).Sound :=
    hw.sound.updateMember hm hp fun h => hgate.trans h
  have hsilent : w.Utters [] (w.updateMember k fun m => { m with processor }) :=
    utters_nil_updateMember (f := fun m => { m with processor }) (fun _ => rfl) w k
  have hm₀ : (w.updateMember k fun m => { m with processor }).members[k]? =
      some { m with processor } :=
    getElem?_updateMember hm _
  generalize hxs : m.processor.items k = xs, hys : processor.items k = ys at hturn
  have htaken {x : Item} (h : xs = x ::ₘ ys) :
      (w.updateMember k fun m => { m with processor }).Adds w {x} :=
    hw.sound.adds_take hm (by rw [hxs, hys, h])
  -- what is taken from the processor is in the hands of the function that does the work
  cases hturn with
  | idle =>
    have hstays := hw.sound.stays_processor hm hp hgate (hys.trans hxs.symm)
    exact ⟨[], hsilent, .stays hstays.calls hstays.items⟩
  | @parked j reply =>
    have hcarries := hw.sound.carries_park hm hp hgate hxs hys
    have hparked : w.Voices (.answered k j reply) k [] (.parked k j reply) :=
      .gets (c := j.call k) rfl hm (.waits rfl)
    refine hcarries.speaks (t := .main) ?_ hparked
    exact hsilent
  | @first j =>
    have hx := htaken rfl
    obtain ⟨told, y, hy, hadds, hutters⟩ := exists_gets_perform hsound hm₀
      (hw.ticket_lt_of_adds hx) (x := .queued k j) rfl
    exact hx.speaks (c := j.call k) hsilent rfl hm hy.of_processor hadds hutters
  | @again j reply =>
    have hx := htaken rfl
    obtain ⟨told, y, hy, hadds, hutters⟩ := exists_gets_perform (j := j.retried) hsound hm₀
      (hw.ticket_lt_of_adds hx) (x := .parked k j reply) rfl
    exact hx.speaks (c := j.call k) hsilent rfl hm hy.of_processor hadds hutters
  | @settled j reply =>
    have hx := htaken rfl
    obtain ⟨told, y, hy, hadds, hutters⟩ := exists_returns_finish hsound hm₀
      (hw.ticket_lt_of_adds hx) (.processor k) reply
    exact hx.speaks (c := j.call k) hsilent rfl hm ((hy.of_eq (m := m) rfl rfl).gets .answered)
      hadds hutters
  | @given j reply =>
    have hx := htaken rfl
    obtain ⟨told, y, hy, hadds, hutters⟩ := exists_returns_finish hsound hm₀
      (hw.ticket_lt_of_adds hx) (.processor k) reply
    exact hx.speaks (c := j.call k) hsilent rfl hm ((hy.of_eq (m := m) rfl rfl).gets .given)
      hadds hutters

/-- A reply comes in. -/
theorem Accounted.speaks_receive {r : IncomingReply} {front back : List IncomingReply}
    (hw : w.Accounted) (h : w.incoming = front ++ r :: back) :
    ∃ words, w.Utters words ({ w with incoming := front ++ back }.receive r) ∧
      w.Speaks words ({ w with incoming := front ++ back }.receive r) := by
  have hx := hw.sound.adds_of_incoming h
  have hsound : ({ w with incoming := front ++ back } : World).Sound :=
    ⟨hw.sound.processors, hw.sound.threads, hw.sound.waiting⟩
  have hsilent : w.Utters [] { w with incoming := front ++ back } := utters_nil rfl rfl
  obtain ⟨c, ⟨hcall, -⟩, hclient⟩ := hw.owned _ hx.mem
  have hk : r.client < w.members.length := by
    rwa [← hcall] at hclient
  have hm : ({ w with incoming := front ++ back } : World).members[r.client]? = some _ :=
    List.getElem?_eq_getElem hk
  obtain ⟨told, y, hy, hadds, hutters⟩ := exists_returns_receive hsound hm (hw.ticket_lt_of_adds hx)
  exact hx.speaks (c := r.job.call r.client) hsilent rfl hm (hy.gets .received) hadds hutters

/-- A reply that was held back is let go. -/
theorem Accounted.speaks_release (hw : w.Accounted) (h : (w.release k).1) :
    ∃ words, w.Utters words (w.release k).2 ∧ w.Speaks words (w.release k).2 := by
  obtain ⟨m, j, reply, held, hm, hheld, hreleased⟩ := exists_held_of_release h
  rw [hreleased]
  have hx := hw.sound.adds_of_held hm hheld
  have hsound : (w.updateMember k fun m => { m with held }).Sound :=
    hw.sound.updateMember hm (f := fun m => { m with held }) (hw.sound.processors k m hm) id
  have hsilent : w.Utters [] (w.updateMember k fun m => { m with held }) :=
    utters_nil_updateMember (f := fun m => { m with held }) (fun _ => rfl) w k
  have hm₀ : (w.updateMember k fun m => { m with held }).members[k]? = some { m with held } :=
    getElem?_updateMember hm _
  obtain ⟨told, y, hy, hadds, hutters⟩ := exists_returns_complete hsound hm₀
    (hw.ticket_lt_of_adds hx) .main reply
  exact hx.speaks (c := j.call k) hsilent rfl hm ((hy.of_eq (m := m) rfl rfl).gets .released)
    hadds hutters

/-- A thread makes a delivery. -/
theorem Adds.speaks_done {i : Nat} {z : Worker} {queue : List (Nat × Delivery)}
    (hadds : w.Adds w' {.delivered d.ticket d.event}) (hz : w.workers[i]? = some z)
    (hqueue : z.queue = (k, d) :: queue) (hm : w.members[k]? = some m)
    (hworkers : w'.workers = w.workers)
    (hutters : w.Utters ((m.tellings d).map (Word.mk k d.ticket t)) w') :
    ∃ words, w.Utters words (w'.updateWorker i Worker.done) ∧
      w.Speaks words (w'.updateWorker i Worker.done) :=
  (hadds.carries_done hz hqueue hworkers).speaks (hutters.before (utters_nil rfl rfl))
    (.delivered hm)

/-- A thread for callbacks takes its next step. -/
theorem Accounted.speaks_deliver {i : Nat} (hw : w.Accounted) (h : w.stepWorker? i = some w') :
    ∃ words, w.Utters words w' ∧ w.Speaks words w' := by
  cases serves_of_stepWorker? h with
  | gone hz hqueue hm =>
    obtain ⟨hk, -⟩ := hw.of_queue hz hqueue
    exact absurd (List.getElem?_eq_none_iff.mp hm) (Nat.not_le.mpr hk)
  | @resumes z k d _ _ hz hqueue hm =>
    obtain ⟨hk, hd⟩ := hw.of_queue hz hqueue
    exact (hw.sound.adds_resume hk hd _).speaks_done hz hqueue hm (by simp)
      ((utters_endClose w k).then_note hm hd _)
  | @waits z k d _ _ hz hqueue hm =>
    have hstays := hw.stays_wait hz hqueue hm
    exact ⟨[], (utters_beginClose w k).before (utters_nil rfl rfl),
      .stays hstays.calls hstays.items⟩
  | @runs z k d _ _ hz hqueue hm =>
    obtain ⟨hk, hd⟩ := hw.of_queue hz hqueue
    exact (adds_run hw.sound hk hd _).speaks_done hz hqueue hm (workers_run ..)
      (utters_run hm hd _)

/-- **A piece of work tells what it should** of the call that it brings to its next place, and
nothing of the others. -/
theorem Accounted.speaks (hw : w.Accounted) (h : w.Progress marks w') :
    ∃ words, w.Utters words w' ∧ w.Speaks words w' := by
  cases h with
  | @process k m delay? a processor hm hdelay hstep =>
    obtain ⟨hp, hgate, hturn⟩ := (hw.sound.processors k m hm).step hdelay hstep
    exact hw.speaks_act hm hp hgate hturn
  | @clear k id m j reply processor hm hphase hqueue hid hprocessor =>
    subst hprocessor
    refine hw.speaks_act (a := .finish j reply) hm
      ((hw.sound.processors k m hm).clear hphase hqueue hid) rfl ?_
    rw [Processor.items_erase hid]
    exact .given
  | receive h => exact hw.speaks_receive h
  | release h => exact hw.speaks_release h
  | deliver h => exact hw.speaks_deliver h

/-! ## Runs -/

/-- What is added without having heard anything changes nothing about what has been heard. -/
theorem elim_getElem?_append {α β : Type} {f : α → List β} (as : List α) {bs : List α}
    (h : ∀ b ∈ bs, f b = []) (i : Nat) :
    ((as ++ bs)[i]?).elim [] f = (as[i]?).elim [] f := by
  rcases Nat.lt_or_ge i as.length with hi | hi
  · rw [List.getElem?_append_left hi]
  · rw [List.getElem?_eq_none hi, List.getElem?_append_right hi]
    cases hb : bs[i - as.length]? with
    | none => rfl
    | some b => exact h b (List.mem_of_getElem? hb)

/-- Nothing is heard of a call that is accepted, -/
theorem heard_enqueue {payload : Payload} {mode : Mode}
    (h : w.enqueue k m payload mode = (.ok n, w')) (ear : Ear) : w'.heard ear = w.heard ear := by
  unfold enqueue at h
  dsimp only at h
  split at h
  · cases h
  · rename_i processor _
    cases h
    have hsilent (w : World) : w.Utters [] (w.updateMember k fun m => { m with processor }) :=
      utters_nil_updateMember (f := fun m => { m with processor }) (fun _ => rfl) w k
    rw [(hsilent _).heard_eq]
    cases ear with
    | callback i | callError i =>
      exact congrArg (List.map _) (elim_getElem?_append w.calls (by simp) i)
    | listener | clientError => rfl

/-- A world that has come from one with nothing in it, with the worlds that it came through and the
calls that were accepted on the way. Nobody forgets what he has heard, and all delays that are asked
for lead to instants. -/
inductive Recorded : List World → List Call → World → Prop
  | initial : Recorded [] [] initial
  /-- Somebody works. -/
  | progress {past : List World} {calls : List Call} {w w' : World} {marks : List Mark}
      (h : Recorded past calls w) (h' : w.Progress marks w') : Recorded (past ++ [w]) calls w'
  /-- A call is accepted. -/
  | accept {past : List World} {calls : List Call} {w w' : World} {k n : Nat} {m : Member}
      {payload : Payload} {mode : Mode} (h : Recorded past calls w) (hm : w.members[k]? = some m)
      (h' : w.enqueue k m payload mode = (.ok n, w')) :
      Recorded (past ++ [w]) (calls ++ [⟨k, n, payload, mode⟩]) w'
  /-- A processor is shut down. -/
  | shutdown {past : List World} {calls : List Call} {w : World} (h : Recorded past calls w)
      (k : Nat) : Recorded (past ++ [w]) calls (w.beginClose k)
  /-- A client starts. -/
  | start {past : List World} {calls : List Call} {w w' : World} {s : Session} {t : Tampering}
      {config : Config} {k : Nat} (h : Recorded past calls w)
      (h' : w.start s t config = .ok (k, w')) : Recorded (past ++ [w]) calls w'
  /-- Something else happens: listeners are added, for instance. -/
  | elsewhere {past : List World} {calls : List Call} {w w' : World} (h : Recorded past calls w)
      (h' : w.Elsewhere w') (hheard : ∀ ear, w'.heard ear = w.heard ear) :
      Recorded (past ++ [w]) calls w'

theorem Recorded.exists_reached {past : List World} {calls : List Call}
    (h : Recorded past calls w) : ∃ marks, Reached marks w := by
  induction h with
  | initial => exact ⟨[], .refl⟩
  | progress _ h' ih =>
    obtain ⟨_, h⟩ := ih
    exact ⟨_, h.tail (.progress h')⟩
  | accept _ hm h' ih =>
    obtain ⟨_, h⟩ := ih
    exact ⟨_, h.tail (.accept hm h')⟩
  | shutdown _ k ih =>
    obtain ⟨_, h⟩ := ih
    exact ⟨_, h.tail (.shutdown k)⟩
  | start _ h' ih =>
    obtain ⟨_, h⟩ := ih
    exact ⟨_, h.tail (.start h')⟩
  | elsewhere _ h' _ ih =>
    obtain ⟨_, h⟩ := ih
    exact ⟨_, h.tail (.elsewhere h')⟩

theorem Recorded.accounted {past : List World} {calls : List Call} (h : Recorded past calls w) :
    w.Accounted := by
  obtain ⟨_, hreached⟩ := h.exists_reached
  exact hreached.accounted

/-- Whether one world comes right after another one in a row. -/
def Passes (history : List World) (u u' : World) : Prop := [u, u'] <:+: history

end World

/-- Whether a call waits for its event. -/
def Call.WaitsIn (c : Call) (w : World) : Prop := ∃ x ∈ w.items, x.call? = some c

/-- Whether some things are what was told when a call ceased to wait for its event. -/
def Call.Opened (c : Call) (history : List World) (e : Event) (opening : List Telling) : Prop :=
  ∃ u u' m, World.Passes history u u' ∧ ¬c.WaitsIn u' ∧ u.members[c.client]? = some m ∧
    ∃ x ∈ u.items, x.call? = some c ∧ x.Opens u m e opening

/-- **What has been told about a call** that is at some place. -/
inductive Call.Hears (c : Call) (history : List World) : Item → List Telling → Prop
  /-- Nothing, as long as it waits for its event. -/
  | waits {x : Item} (hx : x.call? = some c) : Hears c history x []
  /-- What was told when it ceased to wait. -/
  | handed {e : Event} {opening : List Telling} (h : c.Opened history e opening) :
      Hears c history (.handed c.client (c.delivery e)) opening
  /-- What was told then, and when its event was delivered to those who listened. -/
  | delivered {e : Event} {opening : List Telling} {u u' : World} {m : Member}
      (h : c.Opened history e opening) (hpasses : World.Passes history u u')
      (hbefore : u.deliveriesOf c.ticket = []) (hafter : u'.deliveriesOf c.ticket = [e])
      (hm : u.members[c.client]? = some m) :
      Hears c history (.delivered c.ticket e) (opening ++ m.tellings (c.delivery e))

/-- What has been told about the call with a number. -/
def told (n : Nat) (words : List Word) : List Telling :=
  (words.filter (·.ticket = n)).map (·.telling)

namespace Call

variable {c : Call} {history history' : List World} {e : Event} {opening : List Telling} {x : Item}
  {tellings : List Telling}

theorem Opened.mono (h : c.Opened history e opening) (hhistory : history <+: history') :
    c.Opened history' e opening := by
  obtain ⟨u, u', m, hpasses, h⟩ := h
  exact ⟨u, u', m, hpasses.trans hhistory.isInfix, h⟩

theorem Hears.mono (h : c.Hears history x tellings) (hhistory : history <+: history') :
    c.Hears history' x tellings := by
  cases h with
  | waits hx => exact .waits hx
  | handed h => exact .handed (h.mono hhistory)
  | delivered h hpasses hbefore hafter hm =>
    exact .delivered (h.mono hhistory) (hpasses.trans hhistory.isInfix) hbefore hafter hm

theorem Hears.ticket_eq (h : c.Hears history x tellings) : x.ticket = c.ticket := by
  cases h with
  | waits hx => exact Item.ticket_of_call? hx
  | handed | delivered => rfl

end Call

namespace World

variable {w w' : World} {past : List World} {calls : List Call} {words words' : List Word}
  {k n : Nat} {m : Member} {t : Thread} {tellings : List Telling} {c : Call} {x y : Item}
  {marks : List Mark} {e : Event}

/-- **The chronicle of a world**: all the words that have been said in it, to whom and about which
call. -/
structure Chronicle (past : List World) (calls : List Call) (w : World) (words : List Word) :
    Prop where
  /-- The calls have their numbers in order. -/
  tickets : calls.map (·.ticket) = List.range w.calls.length
  /-- Everybody has heard the words that were for him. -/
  heard : ∀ ear, w.heard ear = ear.remarks words
  /-- Every word is about one of the calls. -/
  about : ∀ word ∈ words, ∃ c ∈ calls, word.client = c.client ∧ word.ticket = c.ticket
  /-- About every call everything has been told that should have been. -/
  calls : ∀ c ∈ calls, ∃ x ∈ w.items, c.Hears (past ++ [w]) x (told c.ticket words)

theorem Chronicle.ticket_lt (h : Chronicle past calls w words) (hc : c ∈ calls) :
    c.ticket < w.calls.length := by
  rw [← List.mem_range, ← h.tickets]
  exact List.mem_map_of_mem hc

/-- A chronicle goes on when nothing happens to the calls. -/
theorem Chronicle.stay (h : Chronicle past calls w words)
    (hcalls : w'.calls.length = w.calls.length)
    (hitems : w'.items = w.items) (hheard : ∀ ear, w'.heard ear = w.heard ear) :
    Chronicle (past ++ [w]) calls w' words where
  tickets := hcalls ▸ h.tickets
  heard ear := (hheard ear).trans (h.heard ear)
  about := h.about
  calls c hc := by
    obtain ⟨x, hx, hhears⟩ := h.calls c hc
    exact ⟨x, hitems ▸ hx, hhears.mono (List.prefix_append ..)⟩

/-- A chronicle goes on with a call that is accepted. -/
theorem Chronicle.accept {payload : Payload} {mode : Mode} (h : Chronicle past calls w words)
    (hw : w.Accounted) (hm : w.members[k]? = some m)
    (h' : w.enqueue k m payload mode = (.ok n, w')) :
    Chronicle (past ++ [w]) (calls ++ [⟨k, n, payload, mode⟩]) w' words := by
  obtain ⟨rfl, -, -, hcalls, hitems⟩ := hw.sound.items_enqueue hm h'
  refine ⟨?_, fun ear => (heard_enqueue h' ear).trans (h.heard ear), fun word hword => ?_,
    fun c hc => ?_⟩
  · rw [hcalls, List.range_succ, List.map_append, h.tickets]
    rfl
  · obtain ⟨c, hc, habout⟩ := h.about word hword
    exact ⟨c, List.mem_append_left _ hc, habout⟩
  · rcases List.mem_append.mp hc with hc | hc
    · obtain ⟨x, hx, hhears⟩ := h.calls c hc
      exact ⟨x, hitems ▸ Multiset.mem_cons_of_mem hx, hhears.mono (List.prefix_append ..)⟩
    · -- no word has been said about the new call
      obtain rfl := List.mem_singleton.mp hc
      have hnothing : told w.calls.length words = [] := by
        refine List.map_eq_nil_iff.mpr (List.filter_eq_nil_iff.mpr fun word hword => ?_)
        obtain ⟨c, hc, -, hticket⟩ := h.about word hword
        have hlt := h.ticket_lt hc
        simp only [decide_eq_true_eq]
        omega
      refine ⟨_, hitems ▸ Multiset.mem_cons_self .., ?_⟩
      rw [hnothing]
      exact .waits rfl

/-- The schedule goes on with what has happened so far. -/
theorem Recorded.settleFor (h : Recorded past calls w) (n : Nat)
    (htimely : ∀ i < n, (settleFor i w).IsTimely) :
    ∃ past', Recorded past' calls (settleFor n w) := by
  refine settleFor_induction (R := fun w _ w' =>
    ∀ past, Recorded past calls w → ∃ past', Recorded past' calls w') n w
    (fun _ _ past h => ⟨past, h⟩) (fun i hi w' marks w'' hstep hrest past h => ?_) past h
  exact hrest _ (h.progress (progress_of_step? (htimely i hi) hstep))

/-- What a client sends that sees no answer to the last request of a transaction. -/
def clipped : Tampering := { Tampering.none with dropsLast := true }

/-- The client has listeners for events, of which the first fails, and listeners for errors, of
which the first panics. -/
def audience : World :=
  { attended with
    store := (Store.initial.connect []).2
    members :=
      [{ caller with
          tampering := clipped
          eventListeners := [⟨some "no", []⟩, ⟨none, []⟩]
          errorListeners := [⟨true, []⟩, ⟨false, []⟩] }] }

/-- What the client sends. -/
def pledge : Payload :=
  .batch [⟨.create "/x" ByteArray.empty .worldOpen .persistent, .create, "/x"⟩]

/-- Its callback panics, and so does its listener for errors. -/
def jumpy : Mode :=
  { Mode.inBackground with callback := some (.panic none), errorListener := some true }

/-- The first of two calls of the client. -/
def first : Call := ⟨0, 0, pledge, jumpy⟩

/-- The second one, which goes to the listeners of the client. -/
def second : Call := ⟨0, 1, pledge, .inBackground⟩

/-- The world with the first call, -/
def once : World := (audience.enqueue 0 (audience.members.headD caller) pledge jumpy).2

/-- and with both. -/
def twice : World := (once.enqueue 0 (once.members.headD caller) pledge .inBackground).2

/-- The world in which the client has been shut down and everything has been done. -/
def attained : World := settleFor 8 (twice.beginClose 0)

end World

end Coordination
