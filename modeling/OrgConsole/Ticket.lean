/-!
# Tickets

A request takes a ticket, and its reply counts only while no later ticket was taken or invalidated
for the same slot. So a slow reply to an old request never replaces a newer one.
-/

namespace OrgConsole

/-- The number of a request. -/
structure Ticket where
  number : UInt64
deriving DecidableEq, Repr, Inhabited

/-- The text of a ticket in events. -/
def Ticket.text (t : Ticket) : String :=
  "Ticket(" ++ toString t.number ++ ")"

/-- The tickets of one slot, of which only the number of the latest is kept. -/
structure RequestSequence where
  latest : UInt64
deriving DecidableEq, Repr, Inhabited

namespace RequestSequence

/-- No ticket has been taken. -/
def new : RequestSequence := ⟨0⟩

/-- The ticket taken last. -/
def newest (s : RequestSequence) : Ticket := ⟨s.latest⟩

/-- Let no ticket taken so far count. -/
def invalidate (s : RequestSequence) : RequestSequence := ⟨s.latest + 1⟩

/-- Take a ticket; no ticket taken before counts any more. -/
def issue (s : RequestSequence) : Ticket × RequestSequence :=
  (⟨s.latest + 1⟩, ⟨s.latest + 1⟩)

/-- The ticket still counts. -/
def isCurrent (s : RequestSequence) (t : Ticket) : Bool :=
  s.latest = t.number

end RequestSequence

end OrgConsole
