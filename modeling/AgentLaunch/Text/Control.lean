/-!
# Control sequences

The sequences by which a text steers a terminal, and what remains of a text without them. Visible
characters and white space remain; other control characters go, and so does all that belongs to a
sequence.
-/

namespace AgentLaunch.Text.Control

inductive Phase where
  | plain
  | escape
  /-- Before the last character of a sequence without parameters. -/
  | escapeEnd
  /-- In a sequence that begins with `ESC [`. -/
  | parameters
  /-- At the head of a sequence for a device, which begins with `ESC P`. -/
  | deviceHead
  | deviceParameters
  | deviceEnd
  /-- In a text for a device, or in one that is never shown. -/
  | hidden
  /-- In a command to the system, which begins with `ESC ]`. -/
  | command
  deriving DecidableEq, Repr

def isAsciiBlank (c : Char) : Bool :=
  c = ' ' || c = '\t' || c = '\n' || c = '\x0c' || c = '\r'

/-- Whether the encoding of a character contains the byte that ends a hidden text. -/
def endsHidden (c : Char) : Bool :=
  (String.utf8EncodeChar c).contains 0x9C

private def between (low high : Nat) (c : Char) : Bool :=
  low ≤ c.toNat && c.toNat ≤ high

namespace Phase

/-- Whether a character is seen. White space is seen in the middle of some sequences too. -/
def shows (phase : Phase) (c : Char) : Bool :=
  match phase with
  | plain => isAsciiBlank c || (0x20 ≤ c.toNat && c ≠ '\x7f')
  | escape | escapeEnd | parameters => isAsciiBlank c && c ≠ ' '
  | _ => false

/-- Where a character that is not seen leads to. An escape character begins a new sequence
anywhere; two others end any sequence. -/
def next (phase : Phase) (c : Char) : Phase :=
  if c = '\x1b' then escape
  else if c = '\x18' ∨ c = '\x1a' then plain
  else
    match phase with
    | plain => plain
    | escape =>
      if c = '[' then parameters
      else if c = ']' then command
      else if c = 'P' then deviceHead
      else if c = 'X' ∨ c = '^' ∨ c = '_' then hidden
      else if between 0x20 0x2F c then escapeEnd
      else if between 0x30 0x7E c then plain
      else escape
    | escapeEnd => if between 0x30 0x7E c then plain else escapeEnd
    | parameters => if between 0x40 0x7E c then plain else parameters
    | deviceHead =>
      if between 0x20 0x2F c then deviceEnd
      else if between 0x40 0x7E c then hidden
      else if between 0x30 0x3F c then deviceParameters
      else deviceHead
    | deviceParameters =>
      if between 0x20 0x2F c then deviceEnd
      else if between 0x3C 0x7E c then hidden
      else deviceParameters
    | deviceEnd => if between 0x30 0x7E c then hidden else deviceEnd
    | hidden => if endsHidden c then plain else hidden
    | command => if c = '\x07' then plain else command

end Phase

/-- What is seen of a text from a phase on. Seen white space ends the sequence around it at once;
if sequences resume, they go on behind it at the next ASCII character that is not seen. -/
def seen (resumes : Bool) : Phase → Bool → List Char → List Char
  | _, _, [] => []
  | phase, running, c :: rest =>
    if (if running then Phase.plain else phase).shows c then
      c :: seen resumes (if resumes && c.toNat < 0x80 then phase else .plain) true rest
    else seen resumes (phase.next c) false rest

/-- A text without control sequences, as a stream shows it. -/
def stripStream (s : String) : String :=
  String.ofList (seen true .plain false s.toList)

def strip (s : String) : String :=
  String.ofList (seen false .plain false s.toList)

end AgentLaunch.Text.Control
