import SlotKernel.Machine.Board

/-!
The event log of the kernel. It keeps the first events of a run in order and drops what comes after
it is full, so that what is in it stays.
-/

namespace SlotKernel

inductive Event where
  | tablesBuilt (tables : Nat) (mappedPages : UInt32)
  | pagingEnabled (directory : PhysAddr)
  | slotReplicated (slot : Nat) (start : PhysAddr) (bytes : UInt32)
  /-- So many processes were given the context of the replication. -/
  | contextsSeeded (count : Nat)
  | taskSwitched (source target : Nat)
  | windowMoved (source target : Nat) (pages : UInt32)
  | taskResumed (process : Nat)
  | viewportMapped (phys : PhysAddr)
  deriving DecidableEq

/-- Write an event to the log. -/
def Event.show {σ : Type} [HasConsole σ] : Event → Run σ Unit
  | .tablesBuilt tables mappedPages => do
      Report.info "EVENT: TablesBuilt"
      Report.number " tables" tables
      Report.number " mapped_pages" mappedPages.toNat
  | .pagingEnabled directory => do
      Report.info "EVENT: PagingEnabled"
      Report.hex " directory" directory.val
  | .slotReplicated slot start bytes => do
      Report.info "EVENT: SlotReplicated"
      Report.number " slot" slot
      Report.hex " phys_start" start.val
      Report.number " bytes" bytes.toNat
  | .contextsSeeded count => do
      Report.info "EVENT: ContextsSeeded"
      Report.number " count" count
  | .taskSwitched source target => do
      Report.info "EVENT: TaskSwitched"
      Report.number " from" source
      Report.number " to" target
  | .windowMoved source target pages => do
      Report.info "EVENT: WindowPatched"
      Report.number " from_slot" source
      Report.number " to_slot" target
      Report.number " pages" pages.toNat
  | .taskResumed process => do
      Report.info "EVENT: TaskResumed"
      Report.number " process" process
  | .viewportMapped phys => do
      Report.info "EVENT: PhysWindowMapped"
      Report.hex " phys" phys.val

/-- The first events, in order. -/
structure EventLog where
  entries : Array Event := #[]
  deriving DecidableEq

namespace EventLog

def capacity : Nat := 256

/-- Add an event unless the log is full. -/
def push (log : EventLog) (event : Event) : EventLog :=
  if log.entries.size < capacity then ⟨log.entries.push event⟩ else log

theorem entries_push (log : EventLog) (event : Event) :
    (log.push event).entries =
      if log.entries.size < 256 then log.entries.push event else log.entries := by
  show EventLog.entries (if log.entries.size < 256 then _ else _) = _
  split <;> rfl

end EventLog

end SlotKernel
