/-
The auth module.

An auth module approves sessions before they are made and is told what to keep of
them.  It writes down all it is asked and told, in order, before it answers.  Its
approval may fail; so may its keeping, but nobody waits for that.
-/
import Gatehouse.Session.Record
import Gatehouse.ServiceError

namespace Gatehouse

/-- What an auth module is asked or told. -/
inductive Notice where
  /-- It is asked to approve a session. -/
  | approve (login : String)
  /-- It is told to keep a session. -/
  | persist (record : SessionRecord)
  /-- It is told to forget a session. -/
  | remove (id : SessionId)
  /-- It is told to forget all sessions. -/
  | clear
  /-- It is told about traffic. -/
  | traffic (report : TrafficReport)
  /-- It is told what message types a session listens to. -/
  | messageTypes (id : SessionId) (types : List String)
  deriving DecidableEq

/-- An auth module. -/
structure AuthModule where
  /-- Whether it looks at requests at all; otherwise it approves them unseen. -/
  reviews : Bool
  /-- Why it vetoes every session, if it does. -/
  veto : Option String
  /-- How its approval fails where it does not veto, if it does. -/
  approvalError : Option ServiceError
  /-- Whether what it is told cannot be kept. -/
  failing : Bool
  /-- What it was asked and told, in order. -/
  journal : List Notice

namespace AuthModule

/-- A module that approves and keeps everything. -/
def fresh (reviews : Bool) : AuthModule := ⟨reviews, none, none, false, []⟩

/-- Asks for approval. -/
def review (m : AuthModule) (login : String) : AuthModule × Except ServiceError Unit :=
  if !m.reviews then (m, .ok ())
  else
    ({ m with journal := m.journal ++ [.approve login] },
      match m.veto, m.approvalError with
      | some reason, _ => .error (.vetoed reason)
      | none, some e => .error e
      | none, none => .ok ())

/-- Tells it something. -/
def deliver (m : AuthModule) (n : Notice) : AuthModule × Except ServiceError Unit :=
  ({ m with journal := m.journal ++ [n] },
    if m.failing then .error (.persistence "auth module unavailable") else .ok ())

/-- The ids of the sessions it was told to keep. -/
def persisted (m : AuthModule) : List SessionId :=
  m.journal.filterMap fun | .persist r => some r.sessionId | _ => none

/-- The ids of the sessions it was told to forget. -/
def removed (m : AuthModule) : List SessionId :=
  m.journal.filterMap fun | .remove id => some id | _ => none

/-- The reports on traffic. -/
def reports (m : AuthModule) : List TrafficReport :=
  m.journal.filterMap fun | .traffic r => some r | _ => none

/-- An error of approval as the one who asked sees it: a veto. -/
def asVeto : ServiceError → ServiceError
  | .vetoed reason => .vetoed reason
  | e => .vetoed e.message

end AuthModule

end Gatehouse
