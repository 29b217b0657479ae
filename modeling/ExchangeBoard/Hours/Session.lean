import ExchangeBoard.Hours.Clock

/-!
# Sessions and trading hours

A session is a window of minutes of the day during which an exchange trades in one phase.  The hours of an
exchange are given in one of three shapes: one window, two windows with a break between them, or up to
three windows named by their phases.  This module holds these types, the sessions of given hours in order
of time, and the notation in which the hours of each shape are written.
-/

namespace ExchangeBoard

/-! ### Sessions -/

/-- The phase of trading. -/
inductive Phase where
  /-- Before regular trading. -/
  | pre
  /-- Regular trading. -/
  | reg
  /-- After regular trading. -/
  | post
  /-- No trading. -/
  | closed
  deriving DecidableEq

/-- The name of a phase. -/
def Phase.name : Phase → String
  | .pre => "PRE"
  | .reg => "REG"
  | .post => "POST"
  | .closed => "CLOSED"

/-- A window of minutes of the local day, the last one left out, and the phase of trading in it. -/
structure Session where
  /-- The first minute. -/
  start : Int
  /-- The minute after the last. -/
  stop : Int
  phase : Phase
  deriving DecidableEq

/-- Whether a minute of the day lies in the session. -/
def Session.contains (s : Session) (minute : Int) : Bool := s.start ≤ minute && minute < s.stop

/-- Sessions in order of their start, and of their end where they start together. -/
def Session.le (a b : Session) : Bool :=
  a.start < b.start || (a.start == b.start && a.stop ≤ b.stop)

/-! ### Hours -/

/-- A window of minutes of the day, the last one left out. -/
structure Window where
  /-- The first minute. -/
  start : Int
  /-- The minute after the last. -/
  stop : Int
  deriving DecidableEq

/-- The session of a window in a phase. -/
def Window.session (w : Window) (phase : Phase) : Session := ⟨w.start, w.stop, phase⟩

/-- The hours of an exchange. -/
inductive Hours where
  /-- One window of regular trading. -/
  | continuous (window : Window)
  /-- Two windows of regular trading with a break between them. -/
  | split (first second : Window)
  /-- A window for each phase that takes place. -/
  | extended (pre reg post : Option Window)
  deriving DecidableEq

/-- The windows of the hours with their phases, in the order in which the shape names them. -/
def Hours.windows : Hours → List (Phase × Window)
  | .continuous w => [(.reg, w)]
  | .split first second => [(.reg, first), (.reg, second)]
  | .extended pre reg post =>
    (pre.map (Phase.pre, ·)).toList ++ (reg.map (Phase.reg, ·)).toList ++
      (post.map (Phase.post, ·)).toList

/-- The sessions of the hours in order of time; windows with equal bounds stay in the order of phases. -/
def Hours.sessions (h : Hours) : List Session :=
  (h.windows.map fun (phase, w) => w.session phase).mergeSort Session.le

/-! ### The notation of hours -/

/-- A window as its two clock times. -/
def Window.chars (w : Window) : List Char := Clock.chars w.start ++ '_' :: Clock.chars w.stop

/-- A window with its phase. -/
def partChars (part : Phase × Window) : List Char :=
  part.1.name.toList ++ '_' :: part.2.chars

/-- Pieces with two underscores between neighbours. -/
def joinParts : List (List Char) → List Char
  | [] => []
  | [p] => p
  | p :: rest => p ++ '_' :: '_' :: joinParts rest

/-- The notation of one window. -/
def continuousChars (w : Window) : List Char := "CONTINUOUS_".toList ++ w.chars

/-- The notation of two windows. -/
def splitChars (first second : Window) : List Char :=
  "SPLIT_".toList ++ joinParts [first.chars, second.chars]

/-- The notation of windows named by their phases, in the given order. -/
def extendedChars (parts : List (Phase × Window)) : List Char :=
  "EXTENDED_".toList ++ joinParts (parts.map partChars)

end ExchangeBoard
