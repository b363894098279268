/-
The life of a connection, told by the acts of its worker.

Seen from outside a connection passes through a few stages. It is put on its way by a dial; its
connect is asked for, until it turns out to be through or to have failed; chunks are offered; and it
is closed. Which act may come next depends on the stage alone, and so the acts of a worker that are
about one token are followed by a small automaton.

* **`LifeStage`**, **`LifeStage.next?`**, **`LifeStage.follow?`** — the stages of a connection, and
  the acts that lead from one to the next;
* **`Worker.Chore`**, **`Worker.Advances`** — the calls that runs are made of, in any order and
  under any answers, so that states in the middle of a turn count as well;
* **`Worker.Advances.carries`** — whatever a worker does, every token goes through these stages, and
  the table of connections says at which stage it is;
* **`Worker.nothing_written_before_confirmed`** — so nothing is written before a connect is
  confirmed, and a confirmed connection stays so.
-/
import LoadGenerator.Proofs.Service
import LoadGenerator.Proofs.Tokens

namespace LoadGenerator

/-! ### The acts of one connection -/

/-- The token that an act is about, as the token of a connection. -/
def Act.connection? : Act → Option Token
  | dialed _ (.opened t) => some t
  | probed t .. | wrote t .. | closed t .. => some t
  | _ => none

theorem Act.connection?_of_serves? {a : Act} {t : Token} (h : a.serves? = some t) :
    a.connection? = some t := by
  unfold serves? at h
  split at h
  · exact h
  · exact h
  · cases h

theorem Act.connection?_of_offers? {a : Act} {t : Token} (h : a.offers? = some t) :
    a.connection? = some t := by
  unfold offers? at h
  split at h
  · exact h
  · cases h

/-- How far a token has come. -/
inductive LifeStage where
  /-- No connection has been opened under it. -/
  | unopened
  /-- Its connection is on the way. -/
  | pending
  /-- Its connection was found to be through. -/
  | confirmed
  /-- Its connection was found to have failed, and is about to be closed. -/
  | failing
  /-- Its connection is closed. -/
  | ended
  deriving DecidableEq, Repr

namespace LifeStage

/-- The stage that an act on the token leads to, if it may happen at all. -/
def next? : LifeStage → Act → Option LifeStage
  | unopened, .dialed _ (.opened _) => some pending
  | pending, .probed _ _ (.ok false) => some pending
  | pending, .probed _ _ (.ok true) => some confirmed
  | pending, .probed _ _ (.error _) => some failing
  | pending, .closed _ _ _ .terminating => some ended
  | confirmed, .probed _ _ (.ok true) => some confirmed
  | confirmed, .wrote .. => some confirmed
  | confirmed, .closed _ _ _ .terminating => some ended
  | confirmed, .closed _ _ _ (.writeFailed _) => some ended
  | failing, .closed _ _ _ (.connectFailed _) => some ended
  | _, _ => none

/-- The stage that several acts lead to; those that are not on the token are passed over. -/
def follow? (t : Token) (s : LifeStage) : List Act → Option LifeStage
  | [] => some s
  | a :: rest =>
    if a.connection? = some t then (s.next? a).bind fun s => follow? t s rest else follow? t s rest

variable {t : Token} {s s' : LifeStage} {a : Act} {acts more : List Act} {chunk : Array UInt8}

theorem follow?_cons_of_ne (h : a.connection? ≠ some t) (s : LifeStage) (acts : List Act) :
    follow? t s (a :: acts) = follow? t s acts := by
  rw [follow?, if_neg h]

theorem follow?_cons_of_next? (h : a.connection? = some t) (hnext : s.next? a = some s')
    (acts : List Act) : follow? t s (a :: acts) = follow? t s' acts := by
  rw [follow?, if_pos h, hnext]
  rfl

theorem follow?_append (t : Token) (s : LifeStage) (acts more : List Act) :
    follow? t s (acts ++ more) = (follow? t s acts).bind fun s => follow? t s more := by
  induction acts generalizing s with
  | nil => rfl
  | cons a acts ih =>
    by_cases ha : a.connection? = some t
    · rw [List.cons_append, follow?, if_pos ha, follow?, if_pos ha]
      cases s.next? a with
      | none => rfl
      | some s' => exact ih s'
    · rw [List.cons_append, follow?_cons_of_ne ha, follow?_cons_of_ne ha, ih]

/-- Acts that are not on the token change nothing about it. -/
theorem follow?_of_ne (h : ∀ a ∈ acts, a.connection? ≠ some t) (s : LifeStage) :
    follow? t s acts = some s := by
  induction acts with
  | nil => rfl
  | cons a acts ih =>
    rw [List.forall_mem_cons] at h
    rw [follow?_cons_of_ne h.1, ih h.2]

/-- What is told is about no connection. -/
theorem connection?_of_told (notices : List Notice) :
    ∀ a ∈ notices.map Act.told, a.connection? = none := by
  intro a ha
  obtain ⟨n, -, rfl⟩ := List.mem_map.mp ha
  rfl

theorem follow?_told_append (t : Token) (s : LifeStage) (notices : List Notice) (acts : List Act) :
    follow? t s (notices.map .told ++ acts) = follow? t s acts := by
  have htold : ∀ a ∈ notices.map Act.told, a.connection? ≠ some t := by
    intro a ha
    rw [connection?_of_told notices a ha]
    nofun
  rw [follow?_append, follow?_of_ne htold, Option.bind_some]

/-- What holds of the stage holds on, as long as every act on the token keeps it up. -/
theorem follow?_keeps {p : LifeStage → Prop}
    (hstep : ∀ s, ∀ a ∈ acts, ∀ s', p s → a.connection? = some t → s.next? a = some s' → p s')
    (hs : p s) (h : follow? t s acts = some s') : p s' := by
  -- induction on the acts; those on other tokens leave the stage where it is
  induction acts generalizing s with
  | nil =>
    obtain rfl := Option.some.inj h
    exact hs
  | cons a acts ih =>
    have hlater : ∀ s, ∀ b ∈ acts, ∀ s', p s → b.connection? = some t → s.next? b = some s' →
        p s' := fun s b hb => hstep s b (List.mem_cons_of_mem a hb)
    by_cases ha : a.connection? = some t
    · rw [follow?, if_pos ha, Option.bind_eq_some_iff] at h
      obtain ⟨s₁, hnext, hrest⟩ := h
      exact ih hlater (hstep s a List.mem_cons_self s₁ hs ha hnext) hrest
    · rw [follow?_cons_of_ne ha] at h
      exact ih hlater hs h

/-- The stages around an act on the token. -/
theorem follow?_split (ha : a.connection? = some t)
    (h : follow? t s (acts ++ a :: more) = some s') :
    ∃ before after, follow? t s acts = some before ∧ before.next? a = some after ∧
      follow? t after more = some s' := by
  rw [follow?_append, Option.bind_eq_some_iff] at h
  obtain ⟨before, hbefore, hrest⟩ := h
  rw [follow?, if_pos ha, Option.bind_eq_some_iff] at hrest
  obtain ⟨after, hnext, hafter⟩ := hrest
  exact ⟨before, after, hbefore, hnext, hafter⟩

/-- A connection that was found to have failed comes to its end. -/
theorem follow?_failing (h : follow? t failing acts = some s) : s = failing ∨ s = ended := by
  refine follow?_keeps (p := fun s => s = failing ∨ s = ended) ?_ (.inl rfl) h
  rintro s a - s' hs - hnext
  unfold next? at hnext
  rcases hs with rfl | rfl <;> split at hnext <;> simp_all

/-- A confirmed connection stays so until it is closed. -/
theorem follow?_confirmed (h : follow? t confirmed acts = some s) : s = confirmed ∨ s = ended := by
  refine follow?_keeps (p := fun s => s = confirmed ∨ s = ended) ?_ (.inl rfl) h
  rintro s a - s' hs - hnext
  unfold next? at hnext
  rcases hs with rfl | rfl <;> split at hnext <;> simp_all

/-- A connection that was found to have failed is neither served again nor written to. -/
theorem unserved_of_failing (h : follow? t failing (acts ++ a :: more) = some s) :
    a.serves? ≠ some t ∧ a.offers? ≠ some t := by
  by_cases ha : a.connection? = some t
  · obtain ⟨s₁, s₂, hbefore, hnext, -⟩ := follow?_split ha h
    -- all that may happen to it is its close
    have hclosed : a.serves? = none ∧ a.offers? = none := by
      unfold next? at hnext
      rcases follow?_failing hbefore with rfl | rfl <;> split at hnext <;>
        simp_all [Act.serves?, Act.offers?]
    rw [hclosed.1, hclosed.2]
    exact ⟨nofun, nofun⟩
  · exact ⟨fun hserves => ha (Act.connection?_of_serves? hserves),
      fun hoffers => ha (Act.connection?_of_offers? hoffers)⟩

theorem probed_of_next? (ha : a.connection? = some t) (hs : s ≠ confirmed)
    (h : s.next? a = some confirmed) : ∃ i, a = .probed t i (.ok true) := by
  unfold next? at h
  split at h
  case h_3 s i =>
    obtain rfl := Option.some.inj ha
    exact ⟨i, rfl⟩
  all_goals simp_all

/-- A token gets confirmed by a connect that is found to be through. -/
theorem exists_probed_of_follow? (hs : s ≠ confirmed) (h : follow? t s acts = some confirmed) :
    ∃ i, Act.probed t i (.ok true) ∈ acts := by
  refine Classical.byContradiction fun hnever => ?_
  refine follow?_keeps (p := (· ≠ confirmed)) ?_ hs h rfl
  rintro s a ha s' hs habout hnext rfl
  obtain ⟨i, rfl⟩ := probed_of_next? habout hs hnext
  exact hnever ⟨i, ha⟩

/-- A chunk is offered on a confirmed connection alone. -/
theorem confirmed_of_wrote {i position : Nat} {result : Except SystemError Nat}
    (h : s.next? (.wrote t i position chunk result) = some s') : s = confirmed := by
  cases s <;> first | rfl | cases h

theorem confirmed_of_probed {i : Nat} (h : s.next? (.probed t i (.ok true)) = some s') :
    s' = confirmed := by
  cases s <;> first | exact (Option.some.inj h).symm | cases h

theorem failing_of_probed {i : Nat} {e : SystemError}
    (h : s.next? (.probed t i (.error e)) = some s') : s' = failing := by
  cases s <;> first | exact (Option.some.inj h).symm | cases h

/-- A token that was ever confirmed is so still, or has ended. -/
theorem follow?_of_mem_probed {i : Nat} (hmem : Act.probed t i (.ok true) ∈ acts)
    (h : follow? t s acts = some s') : s' = confirmed ∨ s' = ended := by
  obtain ⟨before, after, rfl⟩ := List.append_of_mem hmem
  obtain ⟨s₁, s₂, -, hnext, hafter⟩ := follow?_split rfl h
  obtain rfl := confirmed_of_probed hnext
  exact follow?_confirmed hafter

/-- Before a chunk is offered, the connection was found to be through. -/
theorem exists_probed_of_wrote {i position : Nat} {result : Except SystemError Nat}
    (hs : s ≠ confirmed)
    (h : follow? t s (acts ++ .wrote t i position chunk result :: more) = some s') :
    ∃ j, Act.probed t j (.ok true) ∈ acts := by
  obtain ⟨s₁, s₂, hbefore, hnext, -⟩ := follow?_split rfl h
  obtain rfl := confirmed_of_wrote hnext
  exact exists_probed_of_follow? hs hbefore

/-- Once a connection was found to be through, it is found so again and again. -/
theorem probed_again {i j : Nat} {result : Except SystemError Bool}
    (hmem : Act.probed t j (.ok true) ∈ acts)
    (h : follow? t s (acts ++ .probed t i result :: more) = some s') : result = .ok true := by
  obtain ⟨s₁, s₂, hbefore, hnext, -⟩ := follow?_split rfl h
  rcases follow?_of_mem_probed hmem hbefore with rfl | rfl
  · match result with
    | .ok true => rfl
    | .ok false => cases hnext
    | .error e => cases hnext
  · cases hnext

/-- Once a connection was found to have failed, it is only closed. -/
theorem follow?_probed_error {i : Nat} {e : SystemError}
    (h : follow? t s (acts ++ .probed t i (.error e) :: more) = some s') :
    (s' = failing ∨ s' = ended) ∧ ∀ a ∈ more, a.serves? ≠ some t ∧ a.offers? ≠ some t := by
  obtain ⟨s₁, s₂, -, hnext, hafter⟩ := follow?_split rfl h
  obtain rfl := failing_of_probed hnext
  refine ⟨follow?_failing hafter, fun a ha => ?_⟩
  obtain ⟨front, back, rfl⟩ := List.append_of_mem ha
  exact unserved_of_failing hafter

theorem next?_ne_unopened (h : s.next? a = some s') : s' ≠ unopened := by
  rintro rfl
  unfold next? at h
  split at h <;> cases h

/-- A token that has not been opened is about nothing that was done. -/
theorem follow?_unopened (h : follow? t s acts = some unopened) :
    ∀ a ∈ acts, a.connection? ≠ some t := by
  intro a ha habout
  obtain ⟨before, after, rfl⟩ := List.append_of_mem ha
  obtain ⟨s₁, s₂, -, hnext, hafter⟩ := follow?_split habout h
  exact follow?_keeps (p := (· ≠ unopened)) (fun _ _ _ _ _ _ hlater => next?_ne_unopened hlater)
    (next?_ne_unopened hnext) hafter rfl

end LifeStage

/-! ### What a worker does, call by call -/

namespace Worker

/-- One call in the course of a run, and what is done in it. -/
inductive Chore : Worker → List Act → Worker → Prop
  /-- The event of a token is noted. -/
  | observed {w : Worker} (t : Token) : Chore w [] (w.observe t)
  /-- The control pipe is read, if it may be. -/
  | heard {w : Worker} (read : ControlRead) (dial : DialAnswers) :
      Chore w (w.readControl read dial).acts (w.readControl read dial).worker
  /-- A command is given. -/
  | handled {w : Worker} (command : Command) (answers : DialAnswers) :
      Chore w (w.handle command answers).acts (w.handle command answers).worker
  /-- The queues change. -/
  | queued {w : Worker} (ready batch : List Token) : Chore w [] { w with ready, batch }
  /-- A connection is served. -/
  | served {w : Worker} (t : Token) (answer : SocketAnswer) :
      Chore w (w.serve t answer).2 (w.serve t answer).1

/-- A row of calls, and all that is done in it. -/
inductive Advances (w₀ : Worker) : List Act → Worker → Prop
  | refl : Advances w₀ [] w₀
  | step {acts more : List Act} {w w' : Worker} (h : Advances w₀ acts w) (m : Chore w more w') :
      Advances w₀ (acts ++ more) w'

variable {w₀ w w' w'' : Worker} {s t : Token} {c d : Connection} {acts more : List Act}
  {chunk : Array UInt8}
  {stage : LifeStage}

theorem Chore.reaches (m : Chore w acts w') : w.Reaches acts w' := by
  cases m with
  | observed t => exact reaches_observe w t
  | heard read dial => exact reaches_readControl w read dial
  | handled command answers => exact reaches_handle w command answers
  | queued => exact .of_move (.arranged ..)
  | served t answer => exact reaches_serve w t answer

namespace Advances

theorem of_chore (m : Chore w acts w') : w.Advances acts w' := by
  simpa using refl.step m

theorem trans (h : w.Advances acts w') (h' : w'.Advances more w'') :
    w.Advances (acts ++ more) w'' := by
  induction h' with
  | refl => simpa using h
  | step _ m ih =>
    rw [← List.append_assoc]
    exact ih.step m

theorem reaches (h : w.Advances acts w') : w.Reaches acts w' := by
  induction h with
  | refl => exact .refl
  | step _ m ih => exact ih.trans m.reaches

end Advances

theorem advances_observeAll (w : Worker) (events : List Token) :
    w.Advances [] (w.observeAll events) := by
  induction events generalizing w with
  | nil => exact .refl
  | cons t events ih => exact (Advances.of_chore (.observed t)).trans (ih _)

theorem advances_serveEach (answers : Token → SocketAnswer) (ts : List Token) (w : Worker) :
    w.Advances (serveEach answers ts w).2 (serveEach answers ts w).1 := by
  induction ts generalizing w with
  | nil => exact .refl
  | cons t rest ih =>
    have htaken : w.Advances [] { w with batch := rest } := .of_chore (.queued w.ready rest)
    exact (htaken.step (.served t (answers t))).trans (ih _)

theorem advances_act (w : Worker) (answers : TurnAnswers) :
    w.Advances (w.act answers).acts (w.act answers).worker := by
  have hread : w.Advances (w.readControl answers.control answers.dial).acts
      (w.readControl answers.control answers.dial).worker := .of_chore (.heard ..)
  have hswapped : ∀ v : Worker, v.Advances [] { v with ready := v.batch, batch := v.ready } :=
    fun v => .of_chore (.queued v.batch v.ready)
  unfold act
  simp only
  split
  · exact hread
  · exact hread.trans ((hswapped _).trans (advances_serveEach answers.sockets _ _))

theorem advances_perform (w : Worker) (o : Operation) :
    w.Advances (w.perform o).acts (w.perform o).worker := by
  cases o with
  | handle c answers => exact .of_chore (.handled c answers)
  -- a turn observes its events before it acts on them, even where it is the last one
  | turn answers =>
    show w.Advances (w.turn answers).acts (w.turn answers).worker
    unfold turn
    split
    · next events _ => exact (advances_observeAll w events).trans (advances_act _ answers)
    · split
      · exact advances_act w answers
      · exact .refl

/-- **Operations are rows of calls.** -/
theorem advances_performAll (w : Worker) (os : List Operation) :
    w.Advances (w.performAll os).acts (w.performAll os).worker := by
  induction os generalizing w with
  | nil => exact .refl
  | cons o rest ih => exact (advances_perform w o).trans (ih _)

theorem Move.nextToken_le (m : Move w acts w') : w.nextToken ≤ w'.nextToken := by
  cases m with
  | abandoned _ _ hnext => exact hnext
  | opened => exact Nat.le_succ _
  | broken h =>
    rename_i c e _
    obtain ⟨r, hr⟩ := tellWriteFailure_fst w c e
    rw [hr]
    exact Nat.le_refl _
  | _ => exact Nat.le_refl _

theorem Reaches.nextToken_le (h : w.Reaches acts w') : w.nextToken ≤ w'.nextToken := by
  induction h with
  | refl => exact Nat.le_refl _
  | step _ m ih => exact Nat.le_trans ih m.nextToken_le

/-! ### Stages and the table of connections -/

/-- How far a token has come, as the table of connections tells it. A token that is not in the table
has not been opened, or has ended; and none is ever found failing between two calls. -/
def IsAt (w : Worker) (t : Token) : LifeStage → Prop
  | .unopened => w.connections.get? t = none
  | .pending => t < w.nextToken ∧ ∃ c, w.connections.get? t = some c ∧ c.state = .connecting ∧
      c.cursor = 0 ∧ c.transmitted = 0
  | .confirmed => t < w.nextToken ∧ ∃ c, w.connections.get? t = some c ∧ c.state = .established
  | .failing => False
  | .ended => t < w.nextToken ∧ w.connections.get? t = none

/-- Whatever stage a token was at, its acts led to the stage at which it is now. -/
def Carries (w : Worker) (acts : List Act) (w' : Worker) : Prop :=
  ∀ t stage, w.IsAt t stage → ∃ stage', stage.follow? t acts = some stage' ∧ w'.IsAt t stage'

theorem Carries.trans (h : w.Carries acts w') (h' : w'.Carries more w'') :
    w.Carries (acts ++ more) w'' := by
  intro t stage hat
  obtain ⟨stage', hfollow, hat'⟩ := h t stage hat
  obtain ⟨stage'', hmore, hat''⟩ := h' t stage' hat'
  exact ⟨stage'', by rw [LifeStage.follow?_append, hfollow, Option.bind_some, hmore], hat''⟩

theorem IsAt.congr (hget : w'.connections.get? t = w.connections.get? t)
    (hnext : w.nextToken ≤ w'.nextToken) (h : w.IsAt t stage) : w'.IsAt t stage := by
  cases stage with
  | unopened => exact hget.trans h
  | pending => exact ⟨Nat.lt_of_lt_of_le h.1 hnext, hget ▸ h.2⟩
  | confirmed => exact ⟨Nat.lt_of_lt_of_le h.1 hnext, hget ▸ h.2⟩
  | failing => exact h
  | ended => exact ⟨Nat.lt_of_lt_of_le h.1 hnext, hget.trans h.2⟩

/-- A live connection is pending, and has sent nothing, or is confirmed. -/
theorem IsAt.of_live (hget : w.connections.get? t = some c) (h : w.IsAt t stage) :
    t < w.nextToken ∧
      (stage = .pending ∧ c.state = .connecting ∧ c.cursor = 0 ∧ c.transmitted = 0 ∨
        stage = .confirmed ∧ c.state = .established) := by
  -- a stage says what the table holds, so the connection in the table tells the stages apart
  cases stage with
  | unopened => cases hget.symm.trans h
  | pending =>
    obtain ⟨hlt, d, hd, hrest⟩ := h
    obtain rfl := Option.some.inj (hd.symm.trans hget)
    exact ⟨hlt, .inl ⟨rfl, hrest⟩⟩
  | confirmed =>
    obtain ⟨hlt, d, hd, hstate⟩ := h
    obtain rfl := Option.some.inj (hd.symm.trans hget)
    exact ⟨hlt, .inr ⟨rfl, hstate⟩⟩
  | failing => exact h.elim
  | ended => cases hget.symm.trans h.2

/-- Acts that are on one token change nothing about the others. -/
theorem Carries.of_others (t : Token) (hnext : w.nextToken ≤ w'.nextToken)
    (hothers : ∀ s, s ≠ t → w'.connections.get? s = w.connections.get? s)
    (habout : ∀ a ∈ acts, ∀ s, a.connection? = some s → s = t)
    (hself : ∀ stage, w.IsAt t stage →
      ∃ stage', stage.follow? t acts = some stage' ∧ w'.IsAt t stage') : w.Carries acts w' := by
  intro s stage hat
  by_cases hst : s = t
  · subst hst
    exact hself stage hat
  · have hsilent : ∀ a ∈ acts, a.connection? ≠ some s := fun a ha hs => hst (habout a ha s hs)
    exact ⟨stage, LifeStage.follow?_of_ne hsilent stage, hat.congr (hothers s hst) hnext⟩

/-- Where the table stays as it is and nothing is done on a connection, all is as before. -/
theorem Carries.of_silent (hget : ∀ s, w'.connections.get? s = w.connections.get? s)
    (hnext : w.nextToken ≤ w'.nextToken) (hsilent : ∀ a ∈ acts, a.connection? = none) :
    w.Carries acts w' := by
  intro s stage hat
  refine ⟨stage, LifeStage.follow?_of_ne (fun a ha => ?_) stage, hat.congr (hget s) hnext⟩
  rw [hsilent a ha]
  nofun

/-- A connection that changes neither its state nor what it has sent is at the same stage. -/
theorem carries_setConnection (hget : w.connections.get? t = some c) (hstate : d.state = c.state)
    (hcursor : d.cursor = c.cursor) (hbytes : d.transmitted = c.transmitted) :
    w.Carries [] (w.setConnection t d) := by
  have hself : (w.setConnection t d).connections.get? t = some d := Connections.get?_set_self hget d
  refine .of_others t (Nat.le_refl _) (fun s hst => Connections.get?_set_of_ne _ hst d) (by simp) ?_
  intro stage hat
  refine ⟨stage, rfl, ?_⟩
  obtain ⟨hlt, ⟨rfl, hrest⟩ | ⟨rfl, hup⟩⟩ := hat.of_live hget
  · exact ⟨hlt, d, hself, by rwa [hstate, hcursor, hbytes]⟩
  · exact ⟨hlt, d, hself, hstate.trans hup⟩

theorem carries_observe (w : Worker) (t : Token) : w.Carries [] (w.observe t) := by
  -- the queues are no matter of any token; what remains is the flag of one connection
  have hsame : ∀ v : Worker, v.connections = w.connections → v.nextToken = w.nextToken →
      w.Carries [] v := fun v hconnections hnext =>
    .of_silent (fun s => by rw [hconnections]) (Nat.le_of_eq hnext.symm) (by simp)
  unfold observe
  split
  · exact hsame _ rfl rfl
  · unfold markReady
    split
    · exact hsame w rfl rfl
    · next c hget =>
      split
      · exact hsame w rfl rfl
      · have hmarked : w.Carries [] (w.setConnection t { c with ready := true }) :=
          carries_setConnection hget rfl rfl rfl
        exact hmarked.trans (.of_silent (fun _ => rfl) (Nat.le_refl _) (by simp))

/-- A new connection is on its way, under a token that has not been opened. -/
theorem carries_adopt (w : Worker) (i : Nat) :
    w.Carries [.dialed i (.opened w.nextToken)] w.adopt := by
  have hget : ∀ s, w.adopt.connections.get? s = (w.connections.get? s).or
      (if w.nextToken = s then some { remote := w.nextAddress, entry := w.nextEntry } else none) :=
    fun s => Connections.get?_add ..
  -- only the next token is concerned, and every other look-up is as before
  refine .of_others w.nextToken (Nat.le_succ _) (fun s hs => ?_) ?_ fun stage hat => ?_
  · rw [hget, if_neg (Ne.symm hs), Option.or_none]
  · simp [Act.connection?]
  · -- the next token is not in the table, and at no later stage either
    cases stage with
    | unopened =>
      have hself := hget w.nextToken
      rw [hat, if_pos rfl, Option.none_or] at hself
      exact ⟨.pending, LifeStage.follow?_cons_of_next? rfl rfl _, Nat.lt_succ_self _, _, hself, rfl,
        rfl, rfl⟩
    | pending => exact absurd hat.1 (Nat.lt_irrefl _)
    | confirmed => exact absurd hat.1 (Nat.lt_irrefl _)
    | failing => exact hat.elim
    | ended => exact absurd hat.1 (Nat.lt_irrefl _)

theorem carries_dial (w : Worker) (answers : DialAnswers) :
    w.Carries (w.dial answers).acts (w.dial answers).worker := by
  cases h : answers.result w.nextToken with
  | exhausted e =>
    simp only [dial, h]
    exact .of_silent (fun _ => rfl) (Nat.le_refl _) (by simp [Act.connection?])
  | noSocket e =>
    simp only [dial, h]
    exact .of_silent (fun _ => rfl) (Nat.le_refl _) (by simp [Act.connection?])
  | failed e =>
    obtain ⟨notices, hn⟩ := w.attempt.told_of_countConnectFailure w.nextEntry w.nextAddress e
    simp only [dial, h]
    refine .of_silent (fun _ => rfl) (Nat.le_refl _) ?_
    rw [List.forall_mem_cons]
    exact ⟨rfl, hn ▸ LifeStage.connection?_of_told notices⟩
  | unregistered e =>
    simp only [dial, h]
    exact .of_silent (fun _ => rfl) (Nat.le_succ _) (by simp [Act.connection?])
  | opened s =>
    -- the results above put nothing into the table, so whatever they tell is of no token
    obtain rfl := token_of_result h
    simp only [dial, h]
    exact carries_adopt w w.nextEntry

theorem carries_handle (w : Worker) (command : Command) (answers : DialAnswers) :
    w.Carries (w.handle command answers).acts (w.handle command answers).worker := by
  cases command with
  | connect => exact carries_dial w answers
  | terminate => exact .of_silent (fun _ => rfl) (Nat.le_refl _) (by simp [handle])
  | unknown b =>
    exact .of_silent (fun _ => rfl) (Nat.le_refl _) (by simp [handle, Act.connection?])

theorem carries_readControl (w : Worker) (read : ControlRead) (dial : DialAnswers) :
    w.Carries (w.readControl read dial).acts (w.readControl read dial).worker := by
  unfold readControl
  split
  · exact .of_silent (fun _ => rfl) (Nat.le_refl _) (by simp)
  · cases read with
    | closed => exact .of_silent (fun _ => rfl) (Nat.le_refl _) (by simp [Act.connection?])
    | byte b =>
      -- the byte is read of the control pipe, and the command it stands for does the rest
      have hread : w.Carries [.readControl (.byte b)] w :=
        .of_silent (fun _ => rfl) (Nat.le_refl _) (by simp [Act.connection?])
      exact hread.trans (carries_handle w _ dial)
    | failed e =>
      simp only
      split
      · exact .of_silent (fun _ => rfl) (Nat.le_refl _) (by simp [Act.connection?])
      · split
        · exact .of_silent (fun _ => rfl) (Nat.le_refl _) (by simp [Act.connection?])
        · exact .of_silent (fun _ => rfl) (Nat.le_refl _) (by simp [Act.connection?])

/-! ### Serving -/

/-- Once a connection is confirmed, its socket is not asked any more. -/
theorem finish_of_established (h : c.state = .established) (status : ConnectStatus) :
    c.finish status = (c, .ok true) := by
  unfold Connection.finish
  rw [h]

/-- A connection that is not found to be through has not been confirmed before. -/
theorem IsAt.pending_of_finish (hget : w.connections.get? t = some c) (hat : w.IsAt t stage)
    (status : ConnectStatus) (h : (c.finish status).2 ≠ .ok true) : stage = .pending := by
  obtain ⟨-, ⟨hstage, -⟩ | ⟨-, hup⟩⟩ := hat.of_live hget
  · exact hstage
  · exact absurd (by rw [finish_of_established hup]) h

/-- A connection is closed; before that something may be done on it, and something told. -/
theorem carries_fold {v : Worker} (front : List Act) (notices : List Notice) (cause : CloseCause)
    (hv : v.connections = w.connections) (hnext : v.nextToken = w.nextToken)
    (hget : w.connections.get? t = some c) (hfront : ∀ a ∈ front, a.connection? = some t)
    (hends : ∀ stage, w.IsAt t stage → ∃ last, stage.follow? t front = some last ∧
      last.next? (.closed t c.entry c.transmitted cause) = some .ended) :
    w.Carries (front ++ (notices.map .told ++ [.closed t c.entry c.transmitted cause]))
      (v.fold t c) := by
  -- the connection is gone from the table, and the others are there as before
  have hgone : ∀ s, (v.fold t c).connections.get? s =
      if t = s then none else w.connections.get? s := by
    intro s
    rw [connections_fold, hv, Connections.get?_remove]
  have hnext' : (v.fold t c).nextToken = w.nextToken := hnext
  refine .of_others t (Nat.le_of_eq hnext'.symm) (fun s hst => ?_) (fun a ha s hs => ?_)
    fun stage hat => ?_
  · rw [hgone, if_neg (Ne.symm hst)]
  -- nothing that is done on the way is about another token
  · rw [List.mem_append, List.mem_append, List.mem_singleton] at ha
    rcases ha with ha | ha | rfl
    · exact Option.some.inj (hs.symm.trans (hfront a ha))
    · rw [LifeStage.connection?_of_told notices a ha] at hs
      cases hs
    · exact (Option.some.inj hs).symm
  -- what comes in front leads to a stage in which a connection may be closed in this way
  · obtain ⟨last, hfollow, hlast⟩ := hends stage hat
    have hlt := (hat.of_live hget).1
    refine ⟨.ended, ?_, hnext' ▸ hlt, by rw [hgone, if_pos rfl]⟩
    rw [LifeStage.follow?_append, hfollow, Option.bind_some, LifeStage.follow?_told_append]
    exact LifeStage.follow?_cons_of_next? rfl hlast []

theorem carries_close (w : Worker) (t : Token) :
    w.Carries (w.close t .terminating).2 (w.close t .terminating).1 := by
  cases hget : w.connections.get? t with
  | none =>
    rw [close_eq_self hget]
    exact .of_silent (fun _ => rfl) (Nat.le_refl _) (by simp)
  | some c =>
    rw [close_eq hget]
    refine carries_fold [] [] .terminating rfl rfl hget (by simp) fun stage hat => ?_
    -- a worker that stops closes connections in either of their live stages
    obtain ⟨-, ⟨rfl, -⟩ | ⟨rfl, -⟩⟩ := hat.of_live hget
    · exact ⟨.pending, rfl, rfl⟩
    · exact ⟨.confirmed, rfl, rfl⟩

/-- A live connection that is found to be through is confirmed from then on. -/
theorem IsAt.offer (hget : w.connections.get? t = some c) (hat : w.IsAt t stage) (i position : Nat)
    (result : Except SystemError Nat) :
    stage.follow? t [.probed t i (.ok true), .wrote t i position chunk result] =
      some .confirmed := by
  have hwrote :
      LifeStage.follow? t .confirmed [.wrote t i position chunk result] = some .confirmed :=
    LifeStage.follow?_cons_of_next? rfl rfl []
  obtain ⟨-, ⟨rfl, -⟩ | ⟨rfl, -⟩⟩ := hat.of_live hget
  · exact (LifeStage.follow?_cons_of_next? rfl rfl _).trans hwrote
  · exact (LifeStage.follow?_cons_of_next? rfl rfl _).trans hwrote

/-- A chunk is offered on a connection that was found to be through. -/
theorem carries_offer (hget : w.connections.get? t = some c) (hd : d.state = .established)
    (i position : Nat) (result : Except SystemError Nat) :
    w.Carries [.probed t i (.ok true), .wrote t i position chunk result] (w.setConnection t d) := by
  refine .of_others t (Nat.le_refl _) (fun s hst => Connections.get?_set_of_ne _ hst d) ?_ ?_
  · simp [Act.connection?]
  · intro stage hat
    exact ⟨.confirmed, hat.offer hget i position result, (hat.of_live hget).1, d,
      Connections.get?_set_self hget d, hd⟩

theorem carries_writeChunk (hget : w.connections.get? t = some c) (write : Except SystemError Nat) :
    w.Carries (.probed t c.entry (.ok true) :: (w.writeChunk t c.confirmed write).2)
      (w.writeChunk t c.confirmed write).1 := by
  have hkept : ∀ v : Worker, v.Carries [] (v.keepReady t) := fun v =>
    .of_silent (fun _ => rfl) (Nat.le_refl _) (by simp)
  unfold writeChunk
  -- each result keeps the connection confirmed, but a failure that does not pass
  cases write with
  | ok count => exact (carries_offer hget rfl _ _ _).trans (hkept _)
  | error e =>
    by_cases hb : e.kind = .wouldBlock
    · simp only [hb, if_true]
      exact carries_offer hget rfl _ _ _
    · by_cases hi : e.kind = .interrupted
      · simp only [hi, reduceCtorEq, if_false, if_true]
        exact (carries_offer hget rfl _ _ _).trans (hkept _)
      · simp only [hb, hi, if_false]
        -- the failure is told before the connection goes, and telling is no act on a token
        rw [failWrite_eq hget (c.confirmed.seek w.payload) e rfl rfl rfl]
        obtain ⟨r, hr⟩ := tellWriteFailure_fst w c e
        obtain ⟨notices, hn⟩ := w.told_of_tellWriteFailure c e
        rw [hr, hn]
        refine carries_fold [_, _] notices (.writeFailed e) rfl rfl hget
          (by simp [Act.connection?]) ?_
        exact fun stage hat => ⟨.confirmed, hat.offer hget _ _ _, rfl⟩

theorem carries_serve (w : Worker) (t : Token) (answer : SocketAnswer) :
    w.Carries (w.serve t answer).2 (w.serve t answer).1 := by
  unfold serve
  split
  · exact carries_close w t
  · cases hget : w.connections.get? t with
    | none => exact .of_silent (fun _ => rfl) (Nat.le_refl _) (by simp)
    | some c =>
      simp only
      rcases finish_cases c answer.status with hf | hf | ⟨e, hf⟩
      · rw [hf]
        exact carries_writeChunk hget answer.write
      · rw [hf]
        -- the connect goes on: the stage stays, and only the flag is cleared
        have hasked : w.Carries [.probed t c.entry (.ok false)] w := by
          refine .of_others t (Nat.le_refl _) (fun _ _ => rfl) (by simp [Act.connection?]) ?_
          intro stage hat
          obtain rfl := hat.pending_of_finish hget answer.status (by simp [hf])
          exact ⟨.pending, LifeStage.follow?_cons_of_next? rfl rfl [], hat⟩
        exact hasked.trans (carries_setConnection hget rfl rfl rfl)
      · rw [hf]
        -- the connect has failed: the connection is still there when the failure is counted
        have hlive : (w.countConnectFailure c.entry c.remote e).1.connections.get? t = some c :=
          hget
        obtain ⟨notices, hn⟩ := w.told_of_countConnectFailure c.entry c.remote e
        simp only [close_eq hlive, hn, List.cons_append]
        refine carries_fold [_] notices (.connectFailed e) rfl rfl hget
          (by simp [Act.connection?]) ?_
        intro stage hat
        obtain rfl := hat.pending_of_finish hget answer.status (by simp [hf])
        exact ⟨.failing, LifeStage.follow?_cons_of_next? rfl rfl [], rfl⟩

theorem Chore.carries (m : Chore w acts w') : w.Carries acts w' := by
  cases m with
  | observed t => exact carries_observe w t
  | heard read dial => exact carries_readControl w read dial
  | handled command answers => exact carries_handle w command answers
  | queued => exact .of_silent (fun _ => rfl) (Nat.le_refl _) (by simp)
  | served t answer => exact carries_serve w t answer

/-- **Whatever a worker does, every token goes through its stages, and the table of connections
tells at which of them it is.** -/
theorem Advances.carries (h : w.Advances acts w') : w.Carries acts w' := by
  induction h with
  | refl => exact .of_silent (fun _ => rfl) (Nat.le_refl _) (by simp)
  | step _ m ih => exact ih.trans m.carries

/-! ### The whole life -/

/-- The acts of a new worker tell at which stage every token is. -/
theorem Fresh.exists_stage (hw : w₀.Fresh) (h : w₀.Advances acts w) (t : Token) :
    ∃ stage, LifeStage.unopened.follow? t acts = some stage ∧ w.IsAt t stage := by
  have hunopened : w₀.IsAt t .unopened := by
    show w₀.connections.get? t = none
    rw [hw.connections]
    rfl
  exact h.carries t .unopened hunopened

/-- A live connection changes its state once at most, when it is found to be through. -/
theorem Advances.state_change (h : w.Advances acts w') (hat : w.IsAt t stage)
    (hc : w.connections.get? t = some c) (hd : w'.connections.get? t = some d) :
    (c.state = .established → d.state = .established) ∧
      (c.state = .connecting → d.state = .established →
        ∃ j, Act.probed t j (.ok true) ∈ acts) := by
  obtain ⟨stage', hfollow, hat'⟩ := h.carries t stage hat
  have hthen := (hat'.of_live hd).2
  -- a live connection stands at one of two stages before and after
  obtain ⟨-, ⟨rfl, hconnecting, -⟩ | ⟨rfl, hup⟩⟩ := hat.of_live hc
  · refine ⟨fun hup => absurd (hconnecting.symm.trans hup) nofun, fun _ hup => ?_⟩
    rcases hthen with ⟨-, hnot, -⟩ | ⟨rfl, -⟩
    · cases hnot.symm.trans hup
    · exact LifeStage.exists_probed_of_follow? (s := .pending) nofun hfollow
  · refine ⟨fun _ => ?_, fun hconnecting => absurd (hconnecting.symm.trans hup) nofun⟩
    rcases hthen with ⟨rfl, -⟩ | ⟨-, hup'⟩
    · rcases LifeStage.follow?_confirmed hfollow with hno | hno <;> cases hno
    · exact hup'

/-- **Nothing is written before a connect is confirmed.** Take any moment in the course of a worker.
A live connection that is still connecting has sent nothing, and its cursor is at the start. Before
every chunk that was offered, the connection had been asked for its connect, which was through.
Whatever is done later, an established connection stays so as long as it is live, and a connecting
one becomes established only by being found to be through. Once it was found so, it is found so
whenever it is asked again, and whatever its socket would answer. And a connection that was found to
have failed is gone; nothing was asked of it and nothing offered on it any more. -/
theorem nothing_written_before_confirmed {setup : WorkerSetup} {creation : CreationAnswers}
    (hcreate : Worker.create setup creation = .ok w₀) (os : List Operation)
    (h : (w₀.performAll os).worker.Advances more w) :
    let acts := (w₀.performAll os).acts ++ more
    (∀ t c, w.connections.get? t = some c → c.state = .connecting →
      c.transmitted = 0 ∧ c.cursor = 0) ∧
    (∀ before after t i position chunk result,
      acts = before ++ .wrote t i position chunk result :: after →
        ∃ j, Act.probed t j (.ok true) ∈ before) ∧
    (∀ later v t c d, w.Advances later v → w.connections.get? t = some c →
      v.connections.get? t = some d →
        (c.state = .established → d.state = .established) ∧
        (c.state = .connecting → d.state = .established →
          ∃ j, Act.probed t j (.ok true) ∈ later)) ∧
    (∀ before after t i j result, acts = before ++ .probed t i result :: after →
      Act.probed t j (.ok true) ∈ before → result = .ok true) ∧
    (∀ t c j, w.connections.get? t = some c → Act.probed t j (.ok true) ∈ acts →
      ∀ status, c.finish status = (c, .ok true)) ∧
    (∀ before after t i e, acts = before ++ .probed t i (.error e) :: after →
      w.connections.get? t = none ∧
        ∀ a ∈ after, a.serves? ≠ some t ∧ a.offers? ≠ some t) := by
  intro acts
  have hadvances : w₀.Advances acts w := (advances_performAll w₀ os).trans h
  -- the acts on each token lead through its stages; each part below reads them for one token
  have hstages := (fresh_of_create hcreate).exists_stage hadvances
  refine ⟨?_, ?_, ?_, ?_, ?_, ?_⟩
  case refine_1 =>
    intro t c hget hconnecting
    obtain ⟨stage, -, hat⟩ := hstages t
    obtain ⟨-, ⟨-, -, hcursor, hbytes⟩ | ⟨-, hup⟩⟩ := hat.of_live hget
    · exact ⟨hbytes, hcursor⟩
    · cases hconnecting.symm.trans hup
  case refine_2 =>
    intro before after t i position chunk result hsplit
    obtain ⟨stage, hfollow, -⟩ := hstages t
    rw [hsplit] at hfollow
    exact LifeStage.exists_probed_of_wrote (s := .unopened) nofun hfollow
  case refine_3 =>
    intro later v t c d hlater hc hd
    obtain ⟨stage, -, hat⟩ := hstages t
    exact hlater.state_change hat hc hd
  case refine_4 =>
    intro before after t i j result hsplit hmem
    obtain ⟨stage, hfollow, -⟩ := hstages t
    rw [hsplit] at hfollow
    exact LifeStage.probed_again hmem hfollow
  case refine_5 =>
    intro t c j hget hmem status
    obtain ⟨stage, hfollow, hat⟩ := hstages t
    obtain ⟨-, ⟨rfl, -⟩ | ⟨-, hup⟩⟩ := hat.of_live hget
    · rcases LifeStage.follow?_of_mem_probed hmem hfollow with hno | hno <;> cases hno
    · exact finish_of_established hup status
  case refine_6 =>
    intro before after t i e hsplit
    obtain ⟨stage, hfollow, hat⟩ := hstages t
    rw [hsplit] at hfollow
    obtain ⟨hend, hnothing⟩ := LifeStage.follow?_probed_error hfollow
    -- between two calls no token is failing
    rcases hend with rfl | rfl
    · exact hat.elim
    · exact ⟨hat.2, hnothing⟩

/-- Three connections: the first is asked twice before it is through and sends two bytes, the second
turns out to have failed, and the third is not heard of. -/
theorem nothing_written_before_confirmed_three :
    let first : TurnAnswers :=
      { poll := .ok [1, 2]
        control := .closed
        dial := {}
        sockets := fun t =>
          if t = 1 then { status := ⟨none, some .notConnected⟩, write := .ok 0 }
          else { status := ⟨some .networkUnreachable, none⟩, write := .ok 0 } }
    let os : List Operation :=
      [.handle .connect {}, .handle .connect {}, .handle .connect {}, .turn first,
        Sample.turn [1] 0 (.ok 2)]
    let w := (Sample.worker.performAll os).worker
    Worker.create Sample.setup {} = .ok Sample.worker ∧
      (∃ c, w.connections.get? 1 = some c ∧ c.transmitted = 2 ∧
        ∀ status, c.finish status = (c, .ok true)) ∧
      w.connections.get? 2 = none ∧
      ∃ c, w.connections.get? 3 = some c ∧ c.transmitted = 0 ∧ c.cursor = 0 := by
  intro first os w
  obtain ⟨hwaiting, -, -, -, hup, hlost⟩ :=
    nothing_written_before_confirmed (w := w) Sample.create_setup os .refl
  -- the second connection is the one that fails, between two acts on the first
  have hacts : (Sample.worker.performAll os).acts ++ [] =
      [.dialed 0 (.opened 1), .dialed 0 (.opened 2), .dialed 0 (.opened 3),
          .probed 1 0 (.ok false)] ++
        .probed 2 0 (.error .networkUnreachable) ::
          [.told (.connectFailed 0 Sample.address .networkUnreachable),
            .closed 2 0 0 (.connectFailed .networkUnreachable),
            .probed 1 0 (.ok true), .wrote 1 0 0 (Sample.setup.payload.chunk 0) (.ok 2)] := rfl
  refine ⟨Sample.create_setup, ⟨_, rfl, rfl, ?_⟩, ?_, ⟨_, rfl, ?_⟩⟩
  · exact hup 1 _ 0 rfl (by simp [hacts])
  · exact (hlost _ _ 2 0 .networkUnreachable hacts).1
  · exact hwaiting 3 _ rfl rfl

end Worker

end LoadGenerator
