/-
One service of a connection, and a batch of them.

Serving a connection ends in one of three ways. It can go on and joins the queue, or it is parked
until its socket is reported again, or it is closed. Which of them it was can be read off what the
worker did: each service begins with an act of its own, and tells by another how it ended.

* **`Act.serves?`**, **`Act.offers?`**, **`Act.keeps?`**, **`Act.refuses?`**, **`Act.opens?`** — the
  token that an act is about, as a service that begins, a write, one that can go on, one that has to
  wait, or a new one;
* **`Worker.Served`** — some connections were served, in order;
* **`Worker.served_serve`**, **`Worker.served_serveEach`** — so does a service, and so does a batch
  of live connections without repetitions.
-/
import LoadGenerator.Proofs.History

namespace LoadGenerator

/-! ### Services among the acts -/

namespace Act

/-- The token whose socket an act is on. -/
def socket? : Act → Option Token
  | probed t .. | wrote t .. | closed t .. => some t
  | _ => none

/-- The token whose service begins with an act: its connect is asked for, or it is closed because
the worker stops. -/
def serves? : Act → Option Token
  | probed t .. | closed t _ _ .terminating => some t
  | _ => none

/-- The token on which a chunk is offered. -/
def offers? : Act → Option Token
  | wrote t .. => some t
  | _ => none

/-- The token whose socket took bytes, or was interrupted: it may well take more. -/
def keeps? : Act → Option Token
  | wrote t _ _ _ (.ok _) => some t
  | wrote t _ _ _ (.error e) => if e.kind = .interrupted then some t else none
  | _ => none

/-- The token whose socket cannot be written for the time being: its connect still goes on, or it
takes nothing. -/
def refuses? : Act → Option Token
  | probed t _ (.ok false) => some t
  | wrote t _ _ _ (.error e) => if e.kind = .wouldBlock then some t else none
  | _ => none

/-- The token under which a dial has put a connection on its way. -/
def opens? : Act → Option Token
  | dialed _ (.opened t) => some t
  | _ => none

variable {a : Act}

theorem serves?_of_socket? (h : a.socket? = none) : a.serves? = none := by
  cases a <;> first | rfl | cases h

theorem offers?_of_socket? (h : a.socket? = none) : a.offers? = none := by
  cases a <;> first | rfl | cases h

theorem keeps?_of_socket? (h : a.socket? = none) : a.keeps? = none := by
  cases a <;> first | rfl | cases h

end Act

/-- What is told on the way is passed over. -/
theorem filterMap_told_append {f : Act → Option Token} (hf : ∀ n, f (.told n) = none)
    (notices : List Notice) (acts : List Act) :
    (notices.map Act.told ++ acts).filterMap f = acts.filterMap f := by
  have hnone : (notices.map Act.told).filterMap f = [] := by
    rw [List.filterMap_eq_nil_iff]
    intro a ha
    obtain ⟨n, -, rfl⟩ := List.mem_map.mp ha
    exact hf n
  rw [List.filterMap_append, hnone, List.nil_append]

namespace Worker

variable {w w' w'' : Worker} {s t : Token} {c d : Connection} {ts us : List Token}
  {acts more : List Act}

/-! ### Serving -/

/-- The connections of `ts` were served, one after the other: those that can go on have joined the
queue, and every other one was parked or closed. -/
structure Served (w : Worker) (ts : List Token) (acts : List Act) (w' : Worker) : Prop where
  served : acts.filterMap Act.serves? = ts
  offered : (acts.filterMap Act.offers?).Sublist ts
  kept : (acts.filterMap Act.keeps?).Sublist ts
  queue : w'.ready = w.ready ++ acts.filterMap Act.keeps?
  others : ∀ s, s ∉ ts → w'.connections.get? s = w.connections.get? s
  fate : ∀ t ∈ ts,
    (t ∈ acts.filterMap Act.keeps? ∧ ∃ c, w'.connections.get? t = some c ∧ c.ready = true) ∨
    (t ∉ acts.filterMap Act.keeps? ∧ ∀ c, w'.connections.get? t = some c →
      c.ready = false ∧ t ∈ acts.filterMap Act.refuses?)

theorem Served.nil (h : w'.connections = w.connections) (hq : w'.ready = w.ready) :
    Served w [] [] w' where
  served := rfl
  offered := .slnil
  kept := .slnil
  queue := by simp [hq]
  others := fun s _ => by rw [h]
  fate := by simp

theorem Served.append (h : Served w ts acts w') (h' : Served w' us more w'')
    (hdisjoint : ∀ t ∈ ts, t ∉ us) : Served w (ts ++ us) (acts ++ more) w'' where
  served := by rw [List.filterMap_append, h.served, h'.served]
  offered := by
    rw [List.filterMap_append]
    exact h.offered.append h'.offered
  kept := by
    rw [List.filterMap_append]
    exact h.kept.append h'.kept
  queue := by rw [h'.queue, h.queue, List.filterMap_append, List.append_assoc]
  others := by
    intro s hs
    rw [List.mem_append, not_or] at hs
    rw [h'.others s hs.2, h.others s hs.1]
  fate := by
    intro t ht
    simp only [List.filterMap_append, List.mem_append]
    rcases List.mem_append.mp ht with ht | ht
    · -- whatever was served later was another connection
      have hlater : t ∉ more.filterMap Act.keeps? := fun hmem =>
        hdisjoint t ht (h'.kept.subset hmem)
      rw [h'.others t (hdisjoint t ht)]
      rcases h.fate t ht with ⟨hkept, hc⟩ | ⟨hkept, hc⟩
      · exact .inl ⟨.inl hkept, hc⟩
      · refine .inr ⟨not_or.mpr ⟨hkept, hlater⟩, fun c hget => ?_⟩
        exact ⟨(hc c hget).1, .inl (hc c hget).2⟩
    -- whatever was served earlier was another connection
    · have hearlier : t ∉ acts.filterMap Act.keeps? := fun hmem =>
        hdisjoint t (h.kept.subset hmem) ht
      rcases h'.fate t ht with ⟨hkept, hc⟩ | ⟨hkept, hc⟩
      · exact .inl ⟨.inr hkept, hc⟩
      · refine .inr ⟨not_or.mpr ⟨hearlier, hkept⟩, fun c hget => ?_⟩
        exact ⟨(hc c hget).1, .inr (hc c hget).2⟩

/-- A service that leaves its connection with the flag set. -/
theorem Served.keep (h : w.connections.get? t = some c) (hd : d.ready = true)
    (hserved : acts.filterMap Act.serves? = [t])
    (hoffered : (acts.filterMap Act.offers?).Sublist [t])
    (hkept : acts.filterMap Act.keeps? = [t]) :
    Served w [t] acts ((w.setConnection t d).keepReady t) where
  served := hserved
  offered := hoffered
  kept := hkept ▸ List.Sublist.refl _
  queue := by
    rw [hkept]
    rfl
  others := by
    intro s hs
    exact Connections.get?_set_of_ne _ (fun hst => hs (by simp [hst])) d
  fate := by
    intro s hs
    obtain rfl := List.mem_singleton.mp hs
    rw [hkept]
    exact .inl ⟨List.mem_singleton_self s, d, Connections.get?_set_self h d, hd⟩

/-- A service that leaves its connection waiting for an event. -/
theorem Served.park (h : w.connections.get? t = some c)
    (hserved : acts.filterMap Act.serves? = [t])
    (hoffered : (acts.filterMap Act.offers?).Sublist [t])
    (hkept : acts.filterMap Act.keeps? = [])
    (hrefused : t ∈ acts.filterMap Act.refuses?) : Served w [t] acts (w.park t d) where
  served := hserved
  offered := hoffered
  kept := by
    rw [hkept]
    exact List.nil_sublist _
  queue := by
    rw [hkept, List.append_nil]
    rfl
  others := by
    intro s hs
    exact Connections.get?_set_of_ne _ (fun hst => hs (by simp [hst])) _
  fate := by
    intro s hs
    obtain rfl := List.mem_singleton.mp hs
    refine .inr ⟨by simp [hkept], fun e he => ?_⟩
    have hset : (w.park s d).connections.get? s = some { d with ready := false } :=
      Connections.get?_set_self h _
    rw [hset] at he
    obtain rfl := Option.some.inj he
    exact ⟨rfl, hrefused⟩

/-- A service that closes its connection, perhaps after its history was changed. -/
theorem Served.close {v : Worker} (hv : v.connections = w.connections) (hready : v.ready = w.ready)
    (hserved : acts.filterMap Act.serves? = [t])
    (hoffered : (acts.filterMap Act.offers?).Sublist [t])
    (hkept : acts.filterMap Act.keeps? = []) : Served w [t] acts (v.fold t c) where
  served := hserved
  offered := hoffered
  kept := by
    rw [hkept]
    exact List.nil_sublist _
  queue := by
    rw [hkept, List.append_nil]
    exact hready
  others := by
    intro s hs
    rw [connections_fold, hv, Connections.get?_remove, if_neg fun hst => hs (by simp [hst])]
  fate := by
    intro s hs
    obtain rfl := List.mem_singleton.mp hs
    refine .inr ⟨by simp [hkept], fun e he => ?_⟩
    rw [connections_fold, Connections.get?_remove, if_pos rfl] at he
    cases he

/-- A service that finds its connection failed: there may be something to tell before the close. -/
theorem Served.fail (front : List Act) (notices : List Notice) (c : Connection) (cause : CloseCause)
    {v : Worker} (hv : v.connections = w.connections) (hready : v.ready = w.ready)
    (hserved : front.filterMap Act.serves? = [t])
    (hoffered : (front.filterMap Act.offers?).Sublist [t])
    (hkept : front.filterMap Act.keeps? = []) (hcause : cause ≠ .terminating) :
    Served w [t] (front ++ (notices.map .told ++ [.closed t c.entry c.transmitted cause]))
      (v.fold t c) := by
  refine .close hv hready ?_ ?_ ?_
  -- the close is no service of its own, unless it is that of a worker that stops
  · have hlast : [Act.closed t c.entry c.transmitted cause].filterMap Act.serves? = [] := by
      cases cause <;> first | rfl | exact absurd rfl hcause
    rw [List.filterMap_append, filterMap_told_append fun _ => rfl, hserved, hlast]
    rfl
  · rw [List.filterMap_append, filterMap_told_append fun _ => rfl]
    show List.Sublist (_ ++ []) _
    rwa [List.append_nil]
  · rw [List.filterMap_append, filterMap_told_append fun _ => rfl, hkept]
    rfl

theorem served_writeChunk (h : w.connections.get? t = some c) (hc : c.ready = true)
    (write : Except SystemError Nat) :
    Served w [t] (.probed t c.entry (.ok true) :: (w.writeChunk t c.confirmed write).2)
      (w.writeChunk t c.confirmed write).1 := by
  unfold writeChunk
  cases write with
  | ok count =>
    have hready : ((c.confirmed.seek w.payload).record count).ready = true := hc
    exact .keep h hready rfl (.refl _) rfl
  | error e =>
    let front : List Act := [.probed t c.entry (.ok true), w.offered t c (.error e)]
    have hserved : front.filterMap Act.serves? = [t] := rfl
    have hoffered : (front.filterMap Act.offers?).Sublist [t] := .refl _
    -- the kind of the error tells what becomes of the connection
    by_cases hb : e.kind = .wouldBlock
    · have hkept : front.filterMap Act.keeps? = [] := by
        simp [front, List.filterMap_cons, Act.keeps?, hb]
      have hrefused : t ∈ front.filterMap Act.refuses? := by
        simp [front, List.filterMap_cons, Act.refuses?, hb]
      simp only [hb, if_true]
      exact .park h hserved hoffered hkept hrefused
    · by_cases hi : e.kind = .interrupted
      · have hkept : front.filterMap Act.keeps? = [t] := by
          simp [front, List.filterMap_cons, Act.keeps?, hi]
        have hready : (c.confirmed.seek w.payload).ready = true := hc
        simp only [hi, reduceCtorEq, if_false, if_true]
        exact .keep h hready hserved hoffered hkept
      · have hkept : front.filterMap Act.keeps? = [] := by
          simp [front, List.filterMap_cons, Act.keeps?, hi]
        simp only [hb, hi, if_false]
        rw [failWrite_eq h (c.confirmed.seek w.payload) e rfl rfl rfl]
        obtain ⟨r, hr⟩ := tellWriteFailure_fst w c e
        obtain ⟨notices, hn⟩ := w.told_of_tellWriteFailure c e
        rw [hr, hn]
        exact .fail front notices c (.writeFailed e) rfl rfl hserved hoffered hkept nofun

theorem served_serve (h : w.connections.get? t = some c) (hc : c.ready = true)
    (answer : SocketAnswer) : Served w [t] (w.serve t answer).2 (w.serve t answer).1 := by
  unfold serve
  split
  · rw [close_eq h]
    exact .close rfl rfl rfl (List.nil_sublist _) rfl
  · rw [h]
    simp only
    rcases finish_cases c answer.status with hf | hf | ⟨e, hf⟩
    · rw [hf]
      exact served_writeChunk h hc answer.write
    · rw [hf]
      exact .park h rfl (List.nil_sublist _) rfl (List.mem_singleton_self t)
    · rw [hf]
      -- counting the failure leaves the connection in the table
      have hget : (w.countConnectFailure c.entry c.remote e).1.connections.get? t = some c := h
      obtain ⟨notices, hn⟩ := w.told_of_countConnectFailure c.entry c.remote e
      simp only [close_eq hget, hn, List.cons_append]
      have hoffered : List.Sublist [] [t] := List.nil_sublist _
      exact .fail [.probed t c.entry (.error e)] notices c (.connectFailed e) rfl rfl rfl hoffered
        rfl nofun

/-- A batch of live connections without repetitions is served from the first to the last. -/
theorem served_serveEach (answers : Token → SocketAnswer) (hts : ts.Nodup)
    (hlive : ∀ t ∈ ts, ∃ c, w.connections.get? t = some c ∧ c.ready = true) :
    Served w ts (serveEach answers ts w).2 (serveEach answers ts w).1 := by
  -- induction on the batch: to serve its first connection leaves the others as they were
  induction ts generalizing w with
  | nil => exact .nil rfl rfl
  | cons t rest ih =>
    obtain ⟨ht, hrest⟩ := List.nodup_cons.mp hts
    obtain ⟨c, hget, hc⟩ := hlive t List.mem_cons_self
    have hget : ({ w with batch := rest } : Worker).connections.get? t = some c := hget
    have hfirst := served_serve hget hc (answers t)
    have hnext : ∀ s ∈ rest, ∃ c,
        (serve { w with batch := rest } t (answers t)).1.connections.get? s = some c ∧
          c.ready = true := by
      intro s hs
      have hst : s ∉ [t] := fun hmem => ht (List.mem_singleton.mp hmem ▸ hs)
      rw [hfirst.others s hst]
      exact hlive s (List.mem_cons_of_mem t hs)
    have hall := hfirst.append (ih hrest hnext) fun s hs => List.mem_singleton.mp hs ▸ ht
    exact ⟨hall.served, hall.offered, hall.kept, hall.queue, hall.others, hall.fate⟩

end Worker

end LoadGenerator
