/-
What is sent at the control pipe is what its readers decode.

Calls put bytes into the pipe, one or many at a time, and the handles of its read end take them out
one by one, each whenever it likes. Commands do not have a byte each: an unknown one may carry a
byte that means something, and then arrives as what the byte means. So the commands of a call are
taken as they arrive, and these have an encoding that can be undone.

* **`Call`** — a call at the write end, with `Call.commands` as what it sends;
* **`Call.perform_eq`** — a call is one write of the encodings, also where it sends many commands;
* **`SharedPipe`** — the pipe with the handles of its read end, and what was read through them;
* **`SharedPipe.Delivers`** — what was read, and what is still on its way, is what was sent;
* **`SharedPipe.decodes_what_is_sent`** — so it is for every interleaving of calls and reads.
-/
import LoadGenerator.ControlPipe

namespace LoadGenerator

/-! ### Calls -/

/-- A call at the write end of the pipe. -/
inductive Call where
  | send (c : Command)
  | sendRaw (b : UInt8)
  | openConnection
  | openConnections (count : Nat)
  | terminateOne
  | terminateMany (workers : Nat)
  deriving DecidableEq, Repr

namespace Call

/-- The pipe after a call, or why the call was refused. -/
def perform (p : ControlPipe) : Call → Except SystemError ControlPipe
  | send c => p.send c
  | sendRaw b => p.sendRaw b
  | openConnection => p.openConnection
  | openConnections count => p.openConnections count
  | terminateOne => p.terminateOne
  | terminateMany workers => p.terminateMany workers

/-- The commands that a call sends, as they arrive: a byte counts as what it means, whether it is
sent raw or as an unknown command. -/
def commands : Call → List Command
  | send .connect | openConnection => [.connect]
  | send .terminate | terminateOne => [.terminate]
  | send (.unknown b) | sendRaw b => [.ofByte b]
  | openConnections count => List.replicate count .connect
  | terminateMany workers => List.replicate workers .terminate

/-- **A call is one write of the encodings of its commands.** -/
theorem perform_eq (c : Call) (p : ControlPipe) :
    c.perform p = p.write (c.commands.map Command.byte) := by
  cases c with
  | send c =>
    cases c with
    | unknown b => rw [commands, List.map_singleton, Command.byte_ofByte]; rfl
    | _ => rfl
  | sendRaw b =>
    rw [commands, List.map_singleton, Command.byte_ofByte]
    rfl
  | openConnection => rfl
  | openConnections count =>
    rw [commands, List.map_replicate]
    rfl
  | terminateOne => rfl
  | terminateMany workers =>
    rw [commands, List.map_replicate]
    rfl

/-- As they arrive, the commands of a call can be told from their bytes. -/
theorem ofByte_byte_of_mem {c : Call} {k : Command} (h : k ∈ c.commands) :
    Command.ofByte k.byte = k := by
  have hconnect : Command.ofByte Command.connect.byte = .connect := by decide
  have hterminate : Command.ofByte Command.terminate.byte = .terminate := by decide
  have hbyte (b : UInt8) : Command.ofByte (Command.ofByte b).byte = .ofByte b := by
    rw [Command.byte_ofByte]
  cases c with
  | send c => cases c <;> simp_all [commands]
  | openConnections count => exact List.eq_of_mem_replicate h ▸ hconnect
  | terminateMany workers => exact List.eq_of_mem_replicate h ▸ hterminate
  | _ => simp_all [commands]

end Call

/-! ### A pipe with its readers -/

/-- A control pipe with the handles of its read end. -/
structure SharedPipe where
  pipe : ControlPipe := {}
  /-- Whether each handle is still open, in the order in which they were made. -/
  handles : List Bool := [true]
  /-- What was read so far, each command with the handle that it was read through. -/
  decoded : List (Nat × Command) := []

/-- What can happen to a pipe and its handles. -/
inductive PipeEvent where
  | call (c : Call)
  /-- A handle reads a single byte. -/
  | read (i : Nat)
  /-- A handle is duplicated. -/
  | duplicate (i : Nat)
  /-- A handle is closed. -/
  | close (i : Nat)
  deriving DecidableEq, Repr

/-- The commands that an event sends, whatever becomes of them. -/
def PipeEvent.commands : PipeEvent → List Command
  | call c => c.commands
  | _ => []

namespace SharedPipe

/-- A handle was made and is not closed yet. -/
def isOpen (s : SharedPipe) (i : Nat) : Bool := s.handles[i]? = some true

/-- Some handle is open. -/
def hasReader (s : SharedPipe) : Bool := s.handles.contains true

/-- The commands that were read, through whichever handle. -/
def commands (s : SharedPipe) : List Command := s.decoded.map Prod.snd

/-- One event. A call that is refused changes nothing, nor does anything that would take a handle
that is not open. -/
def step (s : SharedPipe) : PipeEvent → SharedPipe
  | .call c =>
    match c.perform s.pipe with
    | .ok pipe => { s with pipe }
    | .error _ => s
  | .read i =>
    if s.isOpen i then
      match s.pipe.read with
      | (.byte b, pipe) => { s with pipe, decoded := s.decoded ++ [(i, .ofByte b)] }
      | (_, pipe) => { s with pipe }
    else s
  | .duplicate i =>
    if s.isOpen i then { s with pipe := s.pipe.addReader, handles := s.handles ++ [true] } else s
  | .close i =>
    if s.isOpen i then { s with pipe := s.pipe.closeReader, handles := s.handles.set i false }
    else s

/-- Several events after the pipe was made, with its one handle. -/
def run (events : List PipeEvent) : SharedPipe := events.foldl step {}

variable {s : SharedPipe} {sent : List Command} {i : Nat}

/-- What was read of what was sent. As long as there are readers, the rest is on its way. -/
structure Delivers (sent : List Command) (s : SharedPipe) : Prop where
  readers : s.pipe.readers = s.handles.count true
  /-- What was sent can be told from its bytes. -/
  plain : ∀ c ∈ sent, Command.ofByte c.byte = c
  read : s.commands <+: sent
  rest : s.pipe.readers ≠ 0 →
    ∃ rest, sent = s.commands ++ rest ∧ s.pipe.pending = rest.map Command.byte
  lost : s.pipe.readers = 0 → s.pipe.pending = []

theorem hasReader_eq_false_iff (hreaders : s.pipe.readers = s.handles.count true) :
    s.hasReader = false ↔ s.pipe.readers = 0 := by
  rw [hreaders, List.count_eq_zero, ← List.contains_iff_mem, Bool.not_eq_true, hasReader]

theorem hasReader_of_isOpen (h : s.isOpen i = true) : s.hasReader = true := by
  rw [hasReader, List.contains_iff_mem]
  exact List.mem_of_getElem? (of_decide_eq_true h)

theorem Delivers.readers_ne_zero (h : s.Delivers sent) (hreader : s.hasReader = true) :
    s.pipe.readers ≠ 0 := by
  rw [ne_eq, ← hasReader_eq_false_iff h.readers, hreader]
  nofun

/-! ### What an event preserves -/

theorem Delivers.call (h : s.Delivers sent) (c : Call) :
    (s.step (.call c)).Delivers (sent ++ c.commands) := by
  have hplain : ∀ k ∈ sent ++ c.commands, Command.ofByte k.byte = k := by
    intro k hk
    rcases List.mem_append.mp hk with hk | hk
    · exact h.plain k hk
    · exact Call.ofByte_byte_of_mem hk
  have hread : s.commands <+: sent ++ c.commands := h.read.trans (List.prefix_append ..)
  cases hcall : c.perform s.pipe with
  | error e =>
    -- it is refused for want of a reader, so there is nothing that could still be read
    have hnone : s.pipe.readers = 0 := by
      rw [c.perform_eq, ControlPipe.write_eq_error_iff] at hcall
      exact hcall.2.1
    rw [step, hcall]
    exact ⟨h.readers, hplain, hread, fun hsome => absurd hnone hsome, h.lost⟩
  | ok pipe =>
    have hwrite : s.pipe.write (c.commands.map Command.byte) = .ok pipe := c.perform_eq _ ▸ hcall
    have hpending := ControlPipe.pending_of_write hwrite
    have hreaders := ControlPipe.readers_of_write hwrite
    rw [step, hcall]
    refine ⟨hreaders.trans h.readers, hplain, hread, fun hsome => ?_, fun hnone => ?_⟩
    -- the new commands queue up behind the rest
    · obtain ⟨rest, hsent, hrest⟩ := h.rest (hreaders ▸ hsome)
      refine ⟨rest ++ c.commands, ?_, ?_⟩
      · rw [hsent, List.append_assoc]
        rfl
      · rw [hpending, hrest, List.map_append]
    · -- without a reader only what has no bytes can be written
      have hempty : c.commands.map Command.byte = [] := Decidable.byContradiction fun hne => by
        have herror := ControlPipe.write_eq_error_iff.mpr ⟨hne, hreaders ▸ hnone, rfl⟩
        cases hwrite.symm.trans herror
      rw [hpending, hempty, h.lost (hreaders ▸ hnone), List.append_nil]

/-- A read through any handle decodes the first command on its way, if there is one. -/
theorem Delivers.step_read (h : s.Delivers sent) (hopen : s.isOpen i = true) {rest : List Command}
    (hsent : sent = s.commands ++ rest) (hrest : s.pipe.pending = rest.map Command.byte) :
    s.step (.read i) =
      { s with
        pipe := { s.pipe with pending := rest.tail.map Command.byte }
        decoded := s.decoded ++ (rest.take 1).map fun c => (i, c) } := by
  rw [step, if_pos hopen]
  cases rest with
  | nil =>
    obtain ⟨⟨pending, writerOpen, readers⟩, handles, decoded⟩ := s
    -- nothing is on its way, so the read finds the end or would have to wait
    obtain rfl : pending = [] := hrest
    cases writerOpen <;> simp [ControlPipe.read]
  | cons c rest =>
    have hmem : c ∈ sent := by simp [hsent]
    have hread :
        s.pipe.read = (.byte c.byte, { s.pipe with pending := rest.map Command.byte }) := by
      rw [ControlPipe.read, hrest]
      rfl
    rw [hread]
    simp [h.plain c hmem]

theorem Delivers.step (h : s.Delivers sent) (e : PipeEvent) :
    (s.step e).Delivers (sent ++ e.commands) := by
  cases e with
  | call c => exact h.call c
  | read i =>
    rw [show (PipeEvent.read i).commands = [] from rfl, List.append_nil]
    by_cases hopen : s.isOpen i = true
    · have hsome := h.readers_ne_zero (hasReader_of_isOpen hopen)
      -- an open handle means that the rest is intact, and the read takes its first command
      obtain ⟨rest, hsent, hrest⟩ := h.rest hsome
      have hcommands : (s.step (.read i)).commands = s.commands ++ rest.take 1 := by
        rw [h.step_read hopen hsent hrest, commands, List.map_append, List.map_map]
        simp [commands, Function.comp_def]
      have hsplit : sent = (s.step (.read i)).commands ++ rest.tail := by
        rw [hcommands, hsent, List.append_assoc, ← List.drop_one, List.take_append_drop]
      rw [h.step_read hopen hsent hrest] at hsplit ⊢
      exact ⟨h.readers, h.plain, ⟨_, hsplit.symm⟩, fun _ => ⟨_, hsplit, rfl⟩,
        fun hnone => absurd hnone hsome⟩
    · rw [SharedPipe.step, if_neg hopen]
      exact h
  | duplicate i =>
    rw [show (PipeEvent.duplicate i).commands = [] from rfl, List.append_nil, SharedPipe.step]
    split
    · next hopen =>
      have hsome := h.readers_ne_zero (hasReader_of_isOpen hopen)
      refine ⟨?_, h.plain, h.read, fun _ => h.rest hsome, nofun⟩
      rw [ControlPipe.addReader, List.count_append, h.readers]
      rfl
    · exact h
  | close i =>
    rw [show (PipeEvent.close i).commands = [] from rfl, List.append_nil, SharedPipe.step]
    split
    · next hopen =>
      have hi : s.handles[i]? = some true := of_decide_eq_true hopen
      obtain ⟨hlt, hget⟩ := List.getElem?_eq_some_iff.mp hi
      have hcount : (s.handles.set i false).count true = s.handles.count true - 1 := by
        rw [List.count_set hlt, hget]
        rfl
      -- the count of the readers follows the handles, and only at zero are the bytes dropped
      refine ⟨?_, h.plain, h.read, fun hleft => ?_, fun hnone => ?_⟩
      · rw [ControlPipe.closeReader, hcount, h.readers]
      · have hmany : ¬s.pipe.readers ≤ 1 := by
          simp only [ControlPipe.closeReader] at hleft
          omega
        obtain ⟨rest, hsent, hrest⟩ := h.rest (by omega)
        exact ⟨rest, hsent, by rw [ControlPipe.closeReader, if_neg hmany, hrest]⟩
      · have hlast : s.pipe.readers ≤ 1 := by
          simp only [ControlPipe.closeReader] at hnone
          omega
        rw [ControlPipe.closeReader, if_pos hlast]
    · exact h

/-! ### Whole runs -/

theorem Delivers.foldl (h : s.Delivers sent) (events : List PipeEvent) :
    (events.foldl SharedPipe.step s).Delivers (sent ++ events.flatMap PipeEvent.commands) := by
  induction events generalizing s sent with
  | nil => simpa using h
  | cons e events ih =>
    have hrest := ih (h.step e)
    rwa [List.append_assoc] at hrest

theorem delivers_run (events : List PipeEvent) :
    (run events).Delivers (events.flatMap PipeEvent.commands) := by
  have hstart : Delivers [] {} :=
    ⟨rfl, by simp, List.prefix_rfl, fun _ => ⟨[], rfl, rfl⟩, fun _ => rfl⟩
  exact hstart.foldl events

/-- A handle can only be had from one that is open. -/
theorem hasReader_step_eq_false (h : s.hasReader = false) (e : PipeEvent) :
    (s.step e).hasReader = false := by
  -- nothing opens a handle but a copy of an open one
  have hclosed (i : Nat) : ¬s.isOpen i = true := by
    intro hopen
    cases (hasReader_of_isOpen hopen).symm.trans h
  cases e with
  | call c =>
    rw [step]
    split <;> exact h
  | read i | duplicate i | close i =>
    rw [step, if_neg (hclosed i)]
    exact h

theorem hasReader_foldl_eq_false (h : s.hasReader = false) (events : List PipeEvent) :
    (events.foldl step s).hasReader = false := by
  induction events generalizing s with
  | nil => exact h
  | cons e events ih => exact ih (hasReader_step_eq_false h e)

/-- **What is sent is what readers decode.** Let calls be made at the write end, and bytes be read
one by one through any handles of the read end, while handles are duplicated and closed, all in any
order. The commands that were read, through whichever handle, are the first of those that were sent.

As long as a handle is open, the bytes in the pipe are the encodings of the others, the next read
through any open handle decodes the first of these, and no call is refused. When none is, the pipe
is empty, a call that sends something is refused, one that sends nothing is not and changes nothing,
and no handle is ever open again. -/
theorem decodes_what_is_sent (events : List PipeEvent) :
    let s := run events
    let sent := events.flatMap PipeEvent.commands
    s.commands <+: sent ∧
    (s.hasReader = true →
      (∃ rest, sent = s.commands ++ rest ∧ s.pipe.pending = rest.map Command.byte ∧
        ∀ i, s.isOpen i = true →
          (s.step (.read i)).decoded = s.decoded ++ (rest.take 1).map fun c => (i, c)) ∧
      ∀ c : Call, ∃ pipe, c.perform s.pipe = .ok pipe) ∧
    (s.hasReader = false →
      s.pipe.pending = [] ∧
      (∀ c : Call, c.perform s.pipe =
        if c.commands = [] then .ok s.pipe else .error .brokenPipe) ∧
      ∀ more, (run (events ++ more)).hasReader = false) := by
  intro s sent
  have h : s.Delivers sent := delivers_run events
  refine ⟨h.read, fun hreader => ?_, fun hnone => ?_⟩
  -- a handle is open: the rest is in the pipe, and only the want of a reader refuses a call
  · have hsome := h.readers_ne_zero hreader
    obtain ⟨rest, hsent, hrest⟩ := h.rest hsome
    refine ⟨⟨rest, hsent, hrest, fun i hopen => ?_⟩, fun c => ?_⟩
    · rw [h.step_read hopen hsent hrest]
    · cases hcall : c.perform s.pipe with
      | ok pipe => exact ⟨pipe, rfl⟩
      | error e =>
        rw [c.perform_eq, ControlPipe.write_eq_error_iff] at hcall
        exact absurd hcall.2.1 hsome
  -- no handle is open: nothing is in the pipe, and none will ever be open
  · have hzero := (hasReader_eq_false_iff h.readers).mp hnone
    refine ⟨h.lost hzero, fun c => ?_, fun more => ?_⟩
    · rw [c.perform_eq]
      split
      · next hempty =>
        rw [hempty]
        rfl
      · next hsends =>
        exact ControlPipe.write_eq_error_iff.mpr ⟨by simpa using hsends, hzero, rfl⟩
    · rw [run, List.foldl_append]
      exact hasReader_foldl_eq_false hnone more

/-- Two handles take turns. The byte of a connect command arrives as one although it was sent as an
unknown command, and the last byte is still on its way. -/
example :
    let s := run [.call (.openConnections 2), .duplicate 0, .read 1, .call .terminateOne,
      .call (.send (.unknown Command.connectByte)), .read 0, .read 1, .call (.sendRaw 63), .read 0]
    s.decoded = [(1, .connect), (0, .connect), (1, .terminate), (0, .connect)] ∧
      s.pipe.pending = [63] := by
  decide

end SharedPipe

end LoadGenerator
