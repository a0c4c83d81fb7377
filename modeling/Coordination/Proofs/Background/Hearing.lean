import Coordination.Proofs.Background.Constancy
import Coordination.Proofs.Background.ExactlyOnce
import Coordination.Proofs.Background.Routing

/-!
# Who hears what

A word is one thing that is told about a call, on a thread: to its callback, to its listener for
errors, or to a listener of its client. A piece of work on a call utters some words, and everybody
hears exactly those that are for him. What has to be uttered goes by the place that the call leaves
and the one that it gets to: nothing as long as it waits for its event; a complaint if a reply has
come that does not fit; and all that a delivery tells when the event is delivered.

## Main definitions

* `Ear`, `Remark`, `Word`: who is told things, what is heard, and one thing that is told
* `World.heard`: what somebody has heard
* `World.Utters`: whether exactly some words have been said between two worlds
* `Item.Opens`, `Call.Closes`, `Call.Gets`: what is told before the event of a call is there, when
  it is brought on its way, and when a call gets from one place to another

## Main results

* `World.utters_tell`: whoever is told something hears it, and nobody else does
* `World.utters_note`: a delivery is heard by those for whom it is
* `World.exists_returns_receive`, `World.exists_gets_perform`: what is told when a reply comes in,
  and when an attempt is made at a call
-/

namespace Coordination

/-! ## Words -/

/-- One who is told things. -/
inductive Ear where
  /-- The callback of a call. -/
  | callback (ticket : Nat)
  /-- The error listener of a call. -/
  | callError (ticket : Nat)
  /-- A client's listener for events. -/
  | listener (client index : Nat)
  /-- A client's listener for errors. -/
  | clientError (client index : Nat)
  deriving DecidableEq

/-- What is heard. -/
inductive Remark where
  /-- An event, and on which thread. -/
  | event (e : Event) (t : Thread)
  /-- An error. -/
  | notice (n : Notice)
  deriving DecidableEq

/-- One thing that somebody is told about a call of a client on a thread. -/
structure Word where
  /-- The client. -/
  client : Nat
  /-- The number of the call. -/
  ticket : Nat
  /-- The thread. -/
  thread : Thread
  /-- What is told. -/
  telling : Telling

/-- Who hears a word. -/
def Word.ear (x : Word) : Ear :=
  match x.telling with
  | .callback _ => .callback x.ticket
  | .callError _ => .callError x.ticket
  | .listener i _ => .listener x.client i
  | .clientError i _ => .clientError x.client i

/-- What is heard of a word. -/
def Word.remark (x : Word) : Remark :=
  match x.telling with
  | .callback e | .listener _ e => .event e x.thread
  | .callError n | .clientError _ n => .notice n

/-- What somebody hears of some words. -/
def Ear.remarks (ear : Ear) (words : List Word) : List Remark :=
  (words.filter (·.ear = ear)).map (·.remark)

@[simp] theorem Ear.remarks_nil (ear : Ear) : ear.remarks [] = [] := rfl

theorem Ear.remarks_append (ear : Ear) (words words' : List Word) :
    ear.remarks (words ++ words') = ear.remarks words ++ ear.remarks words' := by
  simp [remarks]

/-- How the listeners of a client behave. -/
def Member.manners (m : Member) : List (Option String) × List Bool :=
  (m.eventListeners.map (·.fault), m.errorListeners.map (·.panics))

/-- What is told when an event is delivered to a client. -/
def Member.tellings (m : Member) (d : Delivery) : List Telling :=
  d.tellings m.manners.1 m.manners.2.length

namespace World

variable {w w' w'' : World} {k n : Nat} {m m' : Member} {t : Thread} {d : Delivery} {j : Job}
  {words words' : List Word} {tellings : List Telling} {reply : StoreReply} {e : Event} {ear : Ear}

/-- What somebody has heard. -/
def heard (w : World) : Ear → List Remark
  | .callback n => ((w.calls[n]?).elim [] (·.events)).map fun y => .event y.1 y.2
  | .callError n => ((w.calls[n]?).elim [] (·.errors)).map .notice
  | .listener k i =>
    ((w.members[k]?).elim [] fun m => (m.eventListeners[i]?).elim [] (·.seen)).map fun y =>
      .event y.1 y.2
  | .clientError k i =>
    ((w.members[k]?).elim [] fun m => (m.errorListeners[i]?).elim [] (·.seen)).map .notice

/-- Whether there is somebody to hear. -/
def HasEar (w : World) : Ear → Prop
  | .callback n | .callError n => n < w.calls.length
  | .listener k i => ∃ m, w.members[k]? = some m ∧ i < m.manners.1.length
  | .clientError k i => ∃ m, w.members[k]? = some m ∧ i < m.manners.2.length

/-- Whether exactly some words have been said between two worlds, the same people listening. -/
structure Utters (w : World) (words : List Word) (w' : World) : Prop where
  /-- Everybody has heard the words that were for them. -/
  heard : ∀ ear, w'.heard ear = w.heard ear ++ ear.remarks words
  /-- The clients have the same listeners. -/
  manners : w'.members.map Member.manners = w.members.map Member.manners
  /-- The calls are the same. -/
  calls : w'.calls.length = w.calls.length

theorem Utters.refl (w : World) : w.Utters [] w := ⟨fun _ => by simp, rfl, rfl⟩

theorem Utters.trans (h : w.Utters words w') (h' : w'.Utters words' w'') :
    w.Utters (words ++ words') w'' where
  heard ear := by rw [h'.heard, h.heard, Ear.remarks_append, List.append_assoc]
  manners := h'.manners.trans h.manners
  calls := h'.calls.trans h.calls

/-- Where nothing is said nothing is heard. -/
theorem Utters.heard_eq (h : w.Utters [] w') (ear : Ear) : w'.heard ear = w.heard ear := by
  rw [h.heard, Ear.remarks_nil, List.append_nil]

/-- Where nothing is said before, the words are those that follow. -/
theorem Utters.after (h : w.Utters [] w') (h' : w'.Utters words w'') : w.Utters words w'' := by
  simpa using h.trans h'

/-- Where nothing is said afterwards, the words are those that were said before. -/
theorem Utters.before (h : w.Utters words w') (h' : w'.Utters [] w'') : w.Utters words w'' := by
  simpa using h.trans h'

/-- A client's listeners behave as before. -/
theorem Utters.exists_member (h : w.Utters words w') (hm : w.members[k]? = some m) :
    ∃ m', w'.members[k]? = some m' ∧ m'.manners = m.manners := by
  have hk := congrArg (·[k]?) h.manners
  simp only [List.getElem?_map, hm, Option.map_some] at hk
  exact Option.map_eq_some_iff.mp hk

theorem Utters.hasEar (h : w.Utters words w') (hear : w.HasEar ear) : w'.HasEar ear := by
  cases ear with
  | callback | callError => exact hear.trans_eq h.calls.symm
  | listener | clientError =>
    obtain ⟨m, hm, hi⟩ := hear
    obtain ⟨m', hm', hmanners⟩ := h.exists_member hm
    exact ⟨m', hm', hmanners ▸ hi⟩

/-- Where nothing is noted nothing has been said. -/
theorem utters_nil (hcalls : w'.calls.map (fun c => (c.events, c.errors)) =
      w.calls.map fun c => (c.events, c.errors))
    (hmembers : w'.members.map (fun m => (m.eventListeners, m.errorListeners)) =
      w.members.map fun m => (m.eventListeners, m.errorListeners)) : w.Utters [] w' where
  heard ear := by
    have hcall (n : Nat) := congrArg (·[n]?) hcalls
    have hmember (k : Nat) := congrArg (·[k]?) hmembers
    simp only [List.getElem?_map] at hcall hmember
    rw [Ear.remarks_nil, List.append_nil]
    cases ear with
    | callback n =>
      have hevents := congrArg (·.elim [] Prod.fst) (hcall n)
      simp only [Option.elim_map] at hevents
      exact congrArg (List.map fun y : Event × Thread => Remark.event y.1 y.2) hevents
    | callError n =>
      have herrors := congrArg (·.elim [] Prod.snd) (hcall n)
      simp only [Option.elim_map] at herrors
      exact congrArg (List.map Remark.notice) herrors
    | listener k i =>
      have hseen := congrArg (·.elim [] fun y => (y.1[i]?).elim [] (·.seen)) (hmember k)
      simp only [Option.elim_map] at hseen
      exact congrArg (List.map fun y : Event × Thread => Remark.event y.1 y.2) hseen
    | clientError k i =>
      have hseen := congrArg (·.elim [] fun y => (y.2[i]?).elim [] (·.seen)) (hmember k)
      simp only [Option.elim_map] at hseen
      exact congrArg (List.map Remark.notice) hseen
  manners := by
    have hmanners := congrArg (List.map fun y : List EventListener × List ErrorListener =>
      (y.1.map (·.fault), y.2.map (·.panics))) hmembers
    simp only [List.map_map] at hmanners
    exact hmanners
  calls := by simpa using congrArg List.length hcalls

/-! ## Telling -/

/-- A call takes note of something. -/
theorem utters_updateCall {f : CallLog → CallLog} {words : List Word} {c : CallLog}
    (hc : w.calls[n]? = some c)
    (hevents : (f c).events.map (fun y => Remark.event y.1 y.2) =
      c.events.map (fun y => .event y.1 y.2) ++ (Ear.callback n).remarks words)
    (herrors : (f c).errors.map Remark.notice =
      c.errors.map .notice ++ (Ear.callError n).remarks words)
    (hothers : ∀ ear : Ear, ear ≠ .callback n → ear ≠ .callError n → ear.remarks words = []) :
    w.Utters words (w.updateCall n f) where
  heard ear := by
    cases ear with
    | callback i =>
      by_cases hi : n = i
      · subst hi
        simpa [heard, updateCall, hc] using hevents
      · simp [heard, updateCall, hi, hothers (.callback i) (by simpa using Ne.symm hi) (by simp)]
    | callError i =>
      by_cases hi : n = i
      · subst hi
        simpa [heard, updateCall, hc] using herrors
      · simp [heard, updateCall, hi, hothers (.callError i) (by simp) (by simpa using Ne.symm hi)]
    | listener k i => simp [heard, updateCall, hothers (.listener k i) (by simp) (by simp)]
    | clientError k i => simp [heard, updateCall, hothers (.clientError k i) (by simp) (by simp)]
  manners := rfl
  calls := List.length_modify ..

/-- A client's listeners take note of something. -/
theorem utters_updateMember {f : Member → Member} {words : List Word} (hm : w.members[k]? = some m)
    (hmanners : (f m).manners = m.manners)
    (hevents : ∀ i : Nat, ((f m).eventListeners[i]?.elim [] (·.seen)).map
        (fun y => Remark.event y.1 y.2) =
      (m.eventListeners[i]?.elim [] (·.seen)).map (fun y => .event y.1 y.2) ++
        (Ear.listener k i).remarks words)
    (herrors : ∀ i : Nat, ((f m).errorListeners[i]?.elim [] (·.seen)).map Remark.notice =
      (m.errorListeners[i]?.elim [] (·.seen)).map .notice ++ (Ear.clientError k i).remarks words)
    (hothers : ∀ ear : Ear, (∀ i, ear ≠ .listener k i ∧ ear ≠ .clientError k i) →
      ear.remarks words = []) :
    w.Utters words (w.updateMember k f) where
  heard ear := by
    cases ear with
    | callback i => simp [heard, updateMember, hothers (.callback i) (by simp)]
    | callError i => simp [heard, updateMember, hothers (.callError i) (by simp)]
    | listener l i =>
      by_cases hl : k = l
      · subst hl
        simpa [heard, updateMember, hm] using hevents i
      · simp [heard, updateMember, hl, hothers (.listener l i) (by simp [Ne.symm hl])]
    | clientError l i =>
      by_cases hl : k = l
      · subst hl
        simpa [heard, updateMember, hm] using herrors i
      · simp [heard, updateMember, hl, hothers (.clientError l i) (by simp [Ne.symm hl])]
  manners := by
    refine List.ext_getElem? fun i => ?_
    by_cases hi : k = i
    · subst hi
      simp [updateMember, hm, hmanners]
    · simp [updateMember, hi]
  calls := rfl

/-- One of some listeners takes note of something. -/
theorem seen_modify {α β : Type} {seen : α → List β} {g : α → α} {b : β}
    (hg : ∀ a, seen (g a) = seen a ++ [b]) (as : List α) {l : Nat} (hl : l < as.length) (i : Nat) :
    ((as.modify l g)[i]?).elim [] seen =
      (as[i]?).elim [] seen ++ if l = i then [b] else [] := by
  by_cases hi : l = i
  · subst hi
    simp [hl, hg]
  · simp [hi]

/-- **Whoever is told something hears it**, and nobody else does. -/
theorem utters_tell {x : Telling} (h : w.HasEar (⟨k, n, t, x⟩ : Word).ear) :
    w.Utters [⟨k, n, t, x⟩] (tell k n t w x) := by
  cases x with
  | callback e =>
    refine utters_updateCall (List.getElem?_eq_getElem h) ?_ ?_ fun ear hear _ => ?_
    · simp [Ear.remarks, Word.ear, Word.remark]
    · simp [Ear.remarks, Word.ear]
    · simp [Ear.remarks, Word.ear, Ne.symm hear]
  | callError e =>
    refine utters_updateCall (List.getElem?_eq_getElem h) ?_ ?_ fun ear _ hear => ?_
    · simp [Ear.remarks, Word.ear]
    · simp [Ear.remarks, Word.ear, Word.remark]
    · simp [Ear.remarks, Word.ear, Ne.symm hear]
  | listener l e =>
    obtain ⟨m, hm, hl⟩ := h
    have hl : l < m.eventListeners.length := by simpa [Member.manners] using hl
    refine utters_updateMember hm ?_ (fun i => ?_) (fun i => ?_) fun ear hear => ?_
    · refine congrArg (·, _) ?_
      exact map_modify_of_eq (f := EventListener.fault)
        (g := fun l => { l with seen := l.seen ++ [(e, t)] }) (fun _ => rfl) m.eventListeners l
    · rw [seen_modify (fun _ => rfl) _ hl]
      by_cases hi : l = i <;> simp [Ear.remarks, Word.ear, Word.remark, hi]
    · simp [Ear.remarks, Word.ear]
    · simp [Ear.remarks, Word.ear, Ne.symm (hear l).1]
  | clientError l e =>
    obtain ⟨m, hm, hl⟩ := h
    have hl : l < m.errorListeners.length := by simpa [Member.manners] using hl
    refine utters_updateMember hm ?_ (fun i => ?_) (fun i => ?_) fun ear hear => ?_
    · refine congrArg (_, ·) ?_
      exact map_modify_of_eq (f := ErrorListener.panics)
        (g := fun l => { l with seen := l.seen ++ [e] }) (fun _ => rfl) m.errorListeners l
    · simp [Ear.remarks, Word.ear]
    · rw [seen_modify (fun _ => rfl) _ hl]
      by_cases hi : l = i <;> simp [Ear.remarks, Word.ear, Word.remark, hi]
    · simp [Ear.remarks, Word.ear, Ne.symm (hear l).2]

/-- Whatever is told to people who are there is heard. -/
theorem utters_tellings (h : ∀ x ∈ tellings, w.HasEar (⟨k, n, t, x⟩ : Word).ear) :
    w.Utters (tellings.map (Word.mk k n t)) (tellings.foldl (tell k n t) w) := by
  induction tellings generalizing w with
  | nil => exact .refl w
  | cons x tellings ih =>
    have hx := utters_tell (h x List.mem_cons_self)
    exact hx.trans (ih fun y hy => hx.hasEar (h y (List.mem_cons_of_mem _ hy)))

/-- A report goes to people who are there. -/
theorem hasEar_report {own : Option Bool} {notice : Notice} (hm : w.members[k]? = some m)
    (hn : n < w.calls.length) :
    ∀ x ∈ Telling.report own m.manners.2.length notice, w.HasEar (⟨k, n, t, x⟩ : Word).ear := by
  intro x hx
  cases own with
  | some panics =>
    obtain rfl := List.mem_singleton.mp hx
    exact hn
  | none =>
    obtain ⟨i, hi, rfl⟩ := List.mem_map.mp hx
    exact ⟨m, hm, List.mem_range.mp hi⟩

theorem hasEar_reportFault {own : Option Bool} {message : String} {fault : Option String}
    (hm : w.members[k]? = some m) (hn : n < w.calls.length) :
    ∀ x ∈ Telling.reportFault own m.manners.2.length message fault,
      w.HasEar (⟨k, n, t, x⟩ : Word).ear := by
  cases fault with
  | none => simp [Telling.reportFault]
  | some f => exact hasEar_report hm hn

/-- So does an event that is announced. -/
theorem hasEar_announce {index : Nat} {faults : List (Option String)}
    (hm : w.members[k]? = some m) (hn : n < w.calls.length)
    (hindex : index + faults.length ≤ m.manners.1.length) :
    ∀ x ∈ Delivery.announce e m.manners.2.length index faults,
      w.HasEar (⟨k, n, t, x⟩ : Word).ear := by
  induction faults generalizing index with
  | nil => simp [Delivery.announce]
  | cons fault faults ih =>
    rw [List.length_cons] at hindex
    intro x hx
    rw [Delivery.announce, List.cons_append, List.mem_cons, List.mem_append] at hx
    rcases hx with rfl | hx | hx
    · exact ⟨m, hm, by omega⟩
    · exact hasEar_reportFault hm hn x hx
    · exact ih (by omega) x hx

/-- **What is told when an event is delivered** goes to people who are there. -/
theorem hasEar_tellings (hm : w.members[k]? = some m) (hd : d.ticket < w.calls.length) :
    ∀ x ∈ m.tellings d, w.HasEar (⟨k, d.ticket, t, x⟩ : Word).ear := by
  unfold Member.tellings Delivery.tellings
  split
  · intro x hx
    rcases List.mem_cons.mp hx with rfl | hx
    · exact hd
    · exact hasEar_reportFault hm hd x hx
  · exact hasEar_announce hm hd (Nat.zero_add _).le

/-! ## Delivering -/

theorem utters_nil_updateMember {f : Member → Member}
    (hf : ∀ m, ((f m).eventListeners, (f m).errorListeners) =
      (m.eventListeners, m.errorListeners)) (w : World) (k : Nat) :
    w.Utters [] (w.updateMember k f) :=
  utters_nil rfl (map_modify_of_eq hf w.members k)

theorem utters_foreground {α : Type} (w : World) (k : Nat) (m : Member) (work : Work α) :
    w.Utters [] (w.foreground k m work).2 :=
  utters_nil rfl (map_modify_of_eq (f := fun m : Member => (m.eventListeners, m.errorListeners))
    (g := fun m' =>
      { m' with
        client := (work (Tampering.link m.session) m.client (w.store, m.tampering)).2.1
        tampering := (work (Tampering.link m.session) m.client (w.store, m.tampering)).2.2.2 })
    (fun _ => rfl) w.members k)

theorem utters_beginClose (w : World) (k : Nat) : w.Utters [] (w.beginClose k) :=
  utters_nil_updateMember (f := fun m =>
    { m with client := { m.client with closed := true }, processor := m.processor.shutdown })
    (fun _ => rfl) w k

theorem utters_endClose (w : World) (k : Nat) : w.Utters [] (w.endClose k) := by
  unfold endClose
  split <;> exact utters_nil rfl rfl

theorem utters_react (w : World) (k : Nat) (m : Member) (r : Reaction) :
    w.Utters [] (w.react k m r) := by
  unfold react
  split
  · split
    · exact .refl w
    · exact (utters_beginClose w k).trans (utters_endClose _ k)
  · exact utters_foreground w k m _
  · exact .refl w

/-- **A delivery is heard** by those for whom it is. -/
theorem utters_note (hm : w.members[k]? = some m) (hd : d.ticket < w.calls.length) (t : Thread) :
    w.Utters ((m.tellings d).map (Word.mk k d.ticket t)) (w.note k t d) := by
  have htellings : d.tellings (m.eventListeners.map (·.fault)) m.errorListeners.length =
      m.tellings d := by
    simp [Member.tellings, Member.manners]
  unfold note
  rw [hm]
  dsimp only
  rw [htellings]
  refine (utters_tellings (hasEar_tellings hm hd)).before (utters_nil ?_ rfl)
  exact map_modify_of_eq (f := fun c : CallLog => (c.events, c.errors))
    (g := fun c => { c with deliveries := c.deliveries ++ [d.event] }) (fun _ => rfl) _ _

/-- A client that listens as before is told the same. -/
theorem tellings_eq (h : m'.manners = m.manners) (d : Delivery) : m'.tellings d = m.tellings d := by
  rw [Member.tellings, h, Member.tellings]

theorem Utters.then_note (h : w.Utters [] w') (hm : w.members[k]? = some m)
    (hd : d.ticket < w.calls.length) (t : Thread) :
    w.Utters ((m.tellings d).map (Word.mk k d.ticket t)) (w'.note k t d) := by
  obtain ⟨m', hm', hmanners⟩ := h.exists_member hm
  exact tellings_eq hmanners d ▸ h.after (utters_note hm' (h.calls.symm ▸ hd) t)

theorem utters_run (hm : w.members[k]? = some m) (hd : d.ticket < w.calls.length) (t : Thread) :
    w.Utters ((m.tellings d).map (Word.mk k d.ticket t)) (w.run k t d) := by
  unfold run
  split
  · exact (utters_react w k _ _).then_note hm hd t
  · exact utters_note hm hd t

theorem utters_handOver (w : World) (name : WorkerId) (k : Nat) (d : Delivery) :
    w.Utters [] (w.handOver name k d) := by
  unfold handOver
  split <;> exact utters_nil rfl rfl

end World

/-! ## What is told about a call -/

/-- The delivery of an event for a call. -/
def Call.delivery (c : Call) (e : Event) : Delivery :=
  { ticket := c.ticket, event := e, callback := c.mode.callback,
    errorListener := c.mode.errorListener }

/-- The call that waits at a place for its event. -/
def Item.call? : Item → Option Call
  | queued k j | flying k j _ | answered k j _ | parked k j _ => some (j.call k)
  | handed .. | delivered .. => none

theorem Item.ticket_of_call? {x : Item} {c : Call} (h : x.call? = some c) :
    x.ticket = c.ticket := by
  cases x with
  | queued | flying | answered | parked =>
    obtain rfl := Option.some.inj h
    rfl
  | handed | delivered => cases h

/-- The job with which the store is asked next for a call at a place. -/
def Item.attempt? : Item → Option Job
  | queued _ j => some j
  | parked _ j _ => some j.retried
  | flying .. | answered .. | handed .. | delivered .. => none

/-- Whether a call of a client that is at a place gets a reply, in a world. -/
inductive Item.Answers (u : World) (m : Member) : Item → Job → StoreReply → Prop
  /-- The reply has come. -/
  | answered {k : Nat} {j : Job} {reply : StoreReply} : Answers u m (.answered k j reply) j reply
  /-- The call waited to be sent again, and is not. -/
  | given {k : Nat} {j : Job} {reply : StoreReply} : Answers u m (.parked k j reply) j reply
  /-- The reply comes in. -/
  | received {k : Nat} {j : Job} {reply : StoreReply} :
      Answers u m (.flying k j reply) j (World.tampered m.tampering reply).1
  /-- The reply was held back, and is let go. -/
  | released {k : Nat} {j : Job} {reply : StoreReply} : Answers u m (.flying k j reply) j reply
  /-- The root of the namespace could not be ensured. -/
  | refused {x : Item} {j : Job} {e : StoreError} (hx : x.attempt? = some j)
      (h : (World.ensureRootOnce (Tampering.link m.session) m.client (u.store, m.tampering)).1 =
        .error (.store e))
      (he : e.isRetryable) : Answers u m x (j.begun u.clock) (j.payload.refused e)

/-- What is told before the event of a call of a client is there that is at a place, in a world. A
reply becomes its outcome, after a complaint if it does not fit. There is no reply if the call was
decided before, or if the root of the namespace cannot be ensured. -/
inductive Item.Opens (x : Item) (u : World) (m : Member) : Event → List Telling → Prop
  /-- The event was known before. -/
  | decided {j : Job} {e : Event} (hx : x.attempt? = some j) (h : j.decided = some e) :
      Opens x u m { e with context := j.mode.context } []
  /-- There is no root, and another attempt is not worth it. -/
  | rootless {j : Job} {f : Failure} (hx : x.attempt? = some j)
      (h : (World.ensureRootOnce (Tampering.link m.session) m.client (u.store, m.tampering)).1 =
        .error f)
      (hf : ∀ e : StoreError, f = .store e → ¬e.isRetryable) :
      Opens x u m
        { j.failedEvent (f.code?.getD .runtimeInconsistency) with context := j.mode.context } []
  /-- A reply is translated. -/
  | translated {j : Job} {reply : StoreReply} (hx : x.Answers u m j reply) :
      Opens x u m { j.outcome m.client.space reply with context := j.mode.context }
        (j.complaint m.client.space reply m.manners.2.length)

/-- What is told when the event of a call is brought on its way, and where it gets: it is handed to
a thread, or delivered at once. -/
inductive Call.Closes (c : Call) (m : Member) (e : Event) : List Telling → Item → Prop
  /-- It is handed to a thread. -/
  | handed : Closes c m e [] (.handed c.client (c.delivery e))
  /-- It is delivered. -/
  | delivered : Closes c m e (m.tellings (c.delivery e)) (.delivered c.ticket e)

/-- **What is told when a call gets from one place to another**, in a world. -/
inductive Call.Gets (c : Call) (x : Item) (u : World) (m : Member) : List Telling → Item → Prop
  /-- As long as it waits for its event nothing is told. -/
  | waits {y : Item} (hy : y.call? = some c) : Gets c x u m [] y
  /-- Its event is brought on its way. -/
  | ends {e : Event} {opening closing : List Telling} {y : Item}
      (hopening : x.Opens u m e opening) (hclosing : c.Closes m e closing y) :
      Gets c x u m (opening ++ closing) y

/-- What is told when a reply to a job comes in, and where the job gets. -/
inductive Job.Returns (k : Nat) (j : Job) (reply : StoreReply) (m : Member) :
    List Telling → Item → Prop
  /-- The reply is held back. -/
  | held : Returns k j reply m [] (.flying k j reply)
  /-- It waits for the processor. -/
  | queued : Returns k j reply m [] (.answered k j reply)
  /-- It is translated. -/
  | ended {closing : List Telling} {x : Item}
      (h : (j.call k).Closes m { j.outcome m.client.space reply with context := j.mode.context }
        closing x) :
      Returns k j reply m (j.complaint m.client.space reply m.manners.2.length ++ closing) x

theorem Call.Closes.of_manners {c : Call} {m m' : Member} {e : Event} {told : List Telling}
    {x : Item} (h : c.Closes m' e told x) (hmanners : m'.manners = m.manners) :
    c.Closes m e told x := by
  cases h with
  | handed => exact .handed
  | delivered =>
    rw [World.tellings_eq hmanners]
    exact .delivered

/-- The state of the processor does not matter to what is told. -/
theorem Call.Gets.of_processor {c : Call} {x : Item} {u : World} {m : Member} {p : Processor}
    {told : List Telling} {y : Item} {k : Nat} {f : Member → Member}
    (h : c.Gets x (u.updateMember k f) { m with processor := p } told y) :
    c.Gets x u m told y := by
  cases h with
  | waits hy => exact .waits hy
  | ends hopening hclosing =>
    refine .ends ?_ (hclosing.of_manners rfl)
    cases hopening with
    | decided hx h => exact .decided hx h
    | rootless hx h hf => exact .rootless hx h hf
    | translated hx =>
      refine .translated ?_
      cases hx with
      | answered => exact .answered
      | given => exact .given
      | received => exact .received
      | released => exact .released
      | refused hx h he => exact .refused hx h he

namespace Job.Returns

variable {k : Nat} {j : Job} {reply : StoreReply} {m m' : Member} {told : List Telling}
  {x y : Item} {u : World}

theorem gets (h : j.Returns k reply m told y) (hx : x.Answers u m j reply) :
    (j.call k).Gets x u m told y := by
  cases h with
  | held | queued => exact .waits rfl
  | ended h => exact .ends (.translated hx) h

/-- What comes of a reply depends on the client's namespace and on how its listeners behave. -/
theorem of_eq (h : j.Returns k reply m' told x) (hspace : m'.client.space = m.client.space)
    (hmanners : m'.manners = m.manners) : j.Returns k reply m told x := by
  cases h with
  | held => exact .held
  | queued => exact .queued
  | ended h =>
    rw [hspace] at h ⊢
    rw [hmanners]
    exact .ended (h.of_manners hmanners)

end Job.Returns

namespace World

variable {w w' w'' : World} {k n : Nat} {m m' : Member} {t : Thread} {d : Delivery} {j : Job}
  {words words' : List Word} {tellings : List Telling} {reply : StoreReply} {e : Event} {c : Call}

/-- The event of a call is brought on its way. -/
theorem exists_closes_deliver (hw : w.Sound) (hm : w.members[k]? = some m)
    (hj : j.ticket < w.calls.length) (t : Thread) (e : Event) :
    ∃ told x, (j.call k).Closes m { e with context := j.mode.context } told x ∧
      w.Adds (w.deliver k t j e) {x} ∧
      w.Utters (told.map (Word.mk k j.ticket t)) (w.deliver k t j e) := by
  have hk : k < w.members.length := (List.getElem?_eq_some_iff.mp hm).1
  unfold deliver
  dsimp only
  split
  · exact ⟨_, _, .handed, adds_handOver hw _ k _, utters_handOver ..⟩
  · split
    · exact ⟨_, _, .delivered, adds_run hw hk hj t, utters_run (d := j.delivery e) hm hj t⟩
    · exact ⟨_, _, .handed, adds_handOver hw _ k _, utters_handOver ..⟩

/-- A complaint goes to people who are there. -/
theorem utters_complaint (hm : w.members[k]? = some m) (hj : j.ticket < w.calls.length) (t : Thread)
    (reply : StoreReply) :
    w.Utters ((j.complaint m.client.space reply m.manners.2.length).map (Word.mk k j.ticket t))
      ((j.complaint m.client.space reply m.manners.2.length).foldl (tell k j.ticket t) w) := by
  refine utters_tellings ?_
  unfold Job.complaint
  split
  · simp
  · exact hasEar_report hm hj

theorem finish_eq (hm : w.members[k]? = some m) (t : Thread) (j : Job) (reply : StoreReply) :
    w.finish k t j reply =
      ((j.complaint m.client.space reply m.manners.2.length).foldl (tell k j.ticket t) w).deliver
        k t j (j.outcome m.client.space reply) := by
  have hlength : m.manners.2.length = m.errorListeners.length := List.length_map ..
  unfold finish Job.complaint Job.outcome
  rw [hm, hlength]
  dsimp only
  cases j.event m.client.space reply <;> rfl

/-- A call is finished with its reply. -/
theorem exists_returns_finish (hw : w.Sound) (hm : w.members[k]? = some m)
    (hj : j.ticket < w.calls.length) (t : Thread) (reply : StoreReply) :
    ∃ told x, j.Returns k reply m told x ∧ w.Adds (w.finish k t j reply) {x} ∧
      w.Utters (told.map (Word.mk k j.ticket t)) (w.finish k t j reply) := by
  rw [finish_eq hm]
  have hcomplaint := utters_complaint hm hj t reply
  have htold := adds_tellings hw k j.ticket t
    (j.complaint m.client.space reply m.manners.2.length)
  obtain ⟨m', hm', hmanners⟩ := hcomplaint.exists_member hm
  obtain ⟨closing, x, hx, hadds, hutters⟩ := exists_closes_deliver htold.sound hm'
    (hcomplaint.calls.symm ▸ hj) t (j.outcome m.client.space reply)
  refine ⟨_, x, .ended (hx.of_manners hmanners), htold.after hadds, ?_⟩
  rw [List.map_append]
  exact hcomplaint.trans hutters

/-- A reply is brought to the processor, or the call is finished with it. -/
theorem exists_returns_complete (hw : w.Sound) (hm : w.members[k]? = some m)
    (hj : j.ticket < w.calls.length) (t : Thread) (reply : StoreReply) :
    ∃ told x, j.Returns k reply m told x ∧ w.Adds (w.complete k t j reply) {x} ∧
      w.Utters (told.map (Word.mk k j.ticket t)) (w.complete k t j reply) := by
  have hp := hw.processors k m hm
  unfold complete
  rw [hm]
  dsimp only
  rw [hp.complete?_eq]
  by_cases hgate : m.processor.gateOpen
  · rw [if_pos hgate]
    refine ⟨[], _, .queued, ?_, utters_nil_updateMember
      (f := fun m' => { m' with processor := m.processor.push (.completed j reply) })
      (fun _ => rfl) w k⟩
    refine adds_updateMember hw hm (hp.push hgate (by simp)) id ?_
    rw [Member.items, Processor.items_push, add_assoc]
    rfl
  · rw [if_neg hgate]
    exact exists_returns_finish hw hm hj t reply

/-- A reply comes in. -/
theorem exists_returns_receive {r : IncomingReply} (hw : w.Sound)
    (hm : w.members[r.client]? = some m) (hj : r.job.ticket < w.calls.length) :
    ∃ told x, r.job.Returns r.client (tampered m.tampering r.reply).1 m told x ∧
      w.Adds (w.receive r) {x} ∧
      w.Utters (told.map (Word.mk r.client r.job.ticket .io)) (w.receive r) := by
  unfold receive
  rw [hm]
  dsimp only
  generalize tampered m.tampering r.reply = y
  obtain ⟨reply, tampering⟩ := y
  have htampered := adds_updateMember_of_eq (f := fun m => { m with tampering }) hw r.client
    fun _ => ⟨rfl, rfl⟩
  have hsilent : w.Utters [] (w.updateMember r.client fun m => { m with tampering }) :=
    utters_nil_updateMember (f := fun m => { m with tampering }) (fun _ => rfl) w r.client
  have hm' : (w.updateMember r.client fun m => { m with tampering }).members[r.client]? =
      some { m with tampering } :=
    getElem?_updateMember hm _
  split
  · refine ⟨[], _, .held, htampered.after ?_, hsilent.after ?_⟩
    · exact adds_hold htampered.sound (List.getElem?_eq_some_iff.mp hm').1 r.job reply
    · exact utters_nil_updateMember (f := fun m => { m with held := m.held ++ [(r.job, reply)] })
        (fun _ => rfl) _ r.client
  · obtain ⟨told, x, hx, hadds, hutters⟩ :=
      exists_returns_complete htampered.sound hm' (htampered.calls ▸ hj) .io reply
    exact ⟨told, x, hx.of_eq rfl rfl, htampered.after hadds, hsilent.after hutters⟩

/-! ## Attempts -/

/-- The store is asked. -/
theorem exists_utters_send (hw : w.Sound) (k : Nat) (m : Member) (j : Job) :
    ∃ reply, w.Adds (w.send k m j) {.flying k j reply} ∧ w.Utters [] (w.send k m j) := by
  unfold send
  split
  · exact ⟨_, adds_incoming hw _ ⟨k, j, _⟩, utters_nil rfl rfl⟩
  · exact ⟨_, adds_incoming hw _ ⟨k, j, _⟩, utters_nil rfl rfl⟩

/-- The root of the namespace cannot be ensured. -/
theorem exists_gets_rootless {x : Item} {f : Failure} (hadds : w.Adds w' 0)
    (hutters : w.Utters [] w') (hm : w.members[k]? = some m) (hj : j.ticket < w.calls.length)
    (hx : x.attempt? = some j)
    (hroot : (ensureRootOnce (Tampering.link m.session) m.client (w.store, m.tampering)).1 =
      .error f)
    (hf : ∀ e : StoreError, f = .store e → ¬e.isRetryable) :
    ∃ told y, (j.call k).Gets x w m told y ∧
      w.Adds (w'.deliver k (.processor k) (j.begun w.clock)
        (j.failedEvent (f.code?.getD .runtimeInconsistency))) {y} ∧
      w.Utters (told.map (Word.mk k j.ticket (.processor k)))
        (w'.deliver k (.processor k) (j.begun w.clock)
          (j.failedEvent (f.code?.getD .runtimeInconsistency))) := by
  obtain ⟨m', hm', hmanners⟩ := hutters.exists_member hm
  have hj' : (j.begun w.clock).ticket < w'.calls.length := hadds.calls ▸ hj
  obtain ⟨told, y, hy, hadds', hutters'⟩ := exists_closes_deliver hadds.sound hm' hj'
    (.processor k) (j.failedEvent (f.code?.getD .runtimeInconsistency))
  exact ⟨told, y, .ends (.rootless hx hroot hf) (hy.of_manners hmanners), hadds.after hadds',
    hutters.after hutters'⟩

/-- **An attempt at a call.** -/
theorem exists_gets_perform {x : Item} (hw : w.Sound) (hm : w.members[k]? = some m)
    (hj : j.ticket < w.calls.length) (hx : x.attempt? = some j) :
    ∃ told y, (j.call k).Gets x w m told y ∧ w.Adds (w.perform k j) {y} ∧
      w.Utters (told.map (Word.mk k j.ticket (.processor k))) (w.perform k j) := by
  unfold perform
  rw [hm]
  dsimp only
  cases hdecided : j.decided with
  | some e =>
    obtain ⟨told, y, hy, hadds, hutters⟩ := exists_closes_deliver hw hm hj (.processor k) e
    exact ⟨told, y, .ends (.decided hx hdecided) hy, hadds, hutters⟩
  | none =>
    dsimp only
    -- the root is ensured first, of which nobody is told
    have hrooted := adds_foreground hw k m ensureRootOnce
    have hsilent := utters_foreground w k m ensureRootOnce
    have hlasts := lasts_foreground isPlain_ensureRootOnce hm
    have hresult : (w.foreground k m ensureRootOnce).1 =
        (ensureRootOnce (Tampering.link m.session) m.client (w.store, m.tampering)).1 := rfl
    generalize w.foreground k m ensureRootOnce = y at hrooted hsilent hlasts hresult ⊢
    obtain ⟨result, w'⟩ := y
    obtain ⟨m', hm', hmanners⟩ := hsilent.exists_member hm
    have hspace : m'.client.space = m.client.space := by
      obtain ⟨m'', hm'', h⟩ := hlasts.members k m hm
      obtain rfl : m' = m'' := by simpa [hm'] using hm''
      exact h.space
    have hj' : (j.begun w.clock).ticket < w'.calls.length := hrooted.calls ▸ hj
    -- an error that is worth a retry counts as a reply, and any other one ends the call
    rcases result with f | _
    · cases f with
      | store e =>
        by_cases he : e.isRetryable
        · simp only [he, if_true]
          obtain ⟨told, y, hy, hadds, hutters⟩ := exists_returns_complete hrooted.sound hm' hj'
            (.processor k) (j.payload.refused e)
          exact ⟨told, y, (hy.of_eq hspace hmanners).gets (.refused hx hresult.symm he),
            hrooted.after hadds, hsilent.after hutters⟩
        · simp only [he]
          refine exists_gets_rootless hrooted hsilent hm hj hx hresult.symm fun e' h => ?_
          cases h
          exact he
      | _ => exact exists_gets_rootless hrooted hsilent hm hj hx hresult.symm fun _ h => nomatch h
    · obtain ⟨reply, hadds, hutters⟩ := exists_utters_send hrooted.sound k m (j.begun w.clock)
      exact ⟨[], _, .waits rfl, hrooted.after hadds, hsilent.after hutters⟩

end World

end Coordination
