/-
# VpsDashboard.Frontend.LogStream — the log view at the other end of the event stream

The server writes every log line as an event: `data: `, the line as a JSON string and
two line breaks.  The loop of `useLogStream` decodes what it reads, cuts it at double
line breaks, carries the rest over and keeps the last 500 lines.

* `feed_feed` — reading two chunks one after the other is reading them joined, whatever
  they contain;
* `log_stream_round_trip` — of any events cut into any chunks the view shows the last
  500 lines, and nothing is left over.

`JSON.parse` is a parameter.  A state update that throws does so when React applies
it, which is outside the `try` around `setLines`; `lines` is then `none`.
-/
import VpsDashboard.Foundation.Reassembly
import VpsDashboard.Foundation.Window
import VpsDashboard.Server.ContainerLogs

namespace VpsDashboard.Frontend

open Foundation Server

set_option autoImplicit false

/-! ## The loop -/

structure LogStreamState where
  decoder : TextDecoder
  buffer : List Char
  lines : Option (List (List Char))

namespace LogStreamState

def start : LogStreamState := ⟨.new, [], some []⟩

/-- `next.length > 500 ? next.slice(-500) : next`. -/
def capLines (next : List (List Char)) : List (List Char) :=
  if next.length > 500 then next.drop (next.length - 500) else next

variable (parse : List Char → Option (List Char))

def appendLine (lines : Option (List (List Char))) (raw : List Char) :
    Option (List (List Char)) := do
  let prev ← lines
  let line ← parse raw
  return capLines (prev ++ [line])

def readLine (lines : Option (List (List Char))) (line : List Char) :
    Option (List (List Char)) :=
  if ['d', 'a', 't', 'a', ':', ' '].isPrefixOf line then appendLine parse lines (line.drop 6) else lines

def readPart (lines : Option (List (List Char))) (part : List Char) :
    Option (List (List Char)) :=
  (part.splitOn '\n').foldl (readLine parse) lines

/-- One turn of the loop, on what `reader.read()` delivers. -/
def feed (s : LogStreamState) (value : Bytes) : LogStreamState :=
  let (text, decoder) := s.decoder.decode value
  let (parts, buffer) := cut '\n' (s.buffer ++ text)
  ⟨decoder, buffer, parts.foldl (readPart parse) s.lines⟩

/-- The loop, until the end of the body. -/
def readAll (chunks : List Bytes) : LogStreamState := chunks.foldl (feed parse) start

/-! ## Chunks do not matter -/

theorem feed_feed (s : LogStreamState) (left right : Bytes) :
    (s.feed parse left).feed parse right = s.feed parse (left ++ right) := by
  simp only [feed, TextDecoder.decode_append, ← List.append_assoc, cut_append (s.buffer ++ _),
    List.foldl_append]

theorem readAll_flatten (chunks : List Bytes) :
    readAll parse chunks = start.feed parse chunks.flatten := by
  have joined : ∀ (s : LogStreamState) (first : Bytes) (chunks : List Bytes),
      chunks.foldl (feed parse) (s.feed parse first) = s.feed parse (first ++ chunks.flatten) := by
    intro s first chunks
    induction chunks generalizing first with
    | nil => rw [List.foldl_nil, List.flatten_nil, List.append_nil]
    | cons chunk chunks ih =>
        rw [List.foldl_cons, feed_feed, ih, List.flatten_cons, List.append_assoc]
  cases chunks with
  | nil => rfl
  | cons chunk chunks => exact joined start chunk chunks

/-! ## One event -/

/-- The text of an event, less the two line breaks at its end. -/
def eventText (line : List Char) : List Char :=
  ['d', 'a', 't', 'a', ':', ' '] ++ JsonString.marshalString (line.map some)

theorem newline_not_mem_eventText (line : List Char) : '\n' ∉ eventText line := by
  have marker : '\n' ∉ ['d', 'a', 't', 'a', ':', ' '] := by decide
  rw [eventText, List.mem_append]
  rintro (inside | inside)
  · exact marker inside
  · exact JsonString.newline_not_mem_marshalString _ inside

/-- The bytes of the events of these lines are the encoding of their texts. -/
theorem events_encode (lines : List (List Char)) :
    (lines.map utf8).flatMap sseEvent =
      utf8 ((lines.map eventText).flatMap fun text => text ++ ['\n', '\n']) := by
  have breaks : utf8 ['\n', '\n'] = [newline, newline] := by decide
  have one : ∀ line, sseEvent (utf8 line) = utf8 (eventText line ++ ['\n', '\n']) := by
    intro line
    rw [sseEvent, jsonEscapeSSE, runes_encode, eventText]
    simp only [utf8_append, breaks]
  induction lines with
  | nil => rfl
  | cons line lines ih =>
      simp only [List.map_cons, List.flatMap_cons, utf8_append (eventText line ++ _), ih, one]

variable {parse}

theorem readPart_eventText
    (undoes : ∀ text, parse (JsonString.marshalString (text.map some)) = some text)
    (lines : List (List Char)) (line : List Char) :
    readPart parse (some lines) (eventText line) = some ((lines ++ [line]).rtake 500) := by
  have capped : ∀ next : List (List Char), capLines next = next.rtake 500 := by
    intro next
    rw [capLines, List.rtake]
    split
    · rfl
    · rw [show next.length - 500 = 0 by omega, List.drop_zero]
  have marked : ['d', 'a', 't', 'a', ':', ' '].isPrefixOf (eventText line) = true :=
    List.isPrefixOf_iff_prefix.mpr (List.prefix_append _ _)
  have raw : (eventText line).drop 6 = JsonString.marshalString (line.map some) := rfl
  rw [readPart, List.splitOn_eq_singleton (newline_not_mem_eventText line), List.foldl_cons,
    List.foldl_nil, readLine, if_pos marked, raw, appendLine, undoes]
  exact congrArg some (capped _)

theorem readParts_eventText
    (undoes : ∀ text, parse (JsonString.marshalString (text.map some)) = some text)
    (lines : List (List Char)) :
    (lines.map eventText).foldl (readPart parse) (some []) = some (lines.rtake 500) := by
  induction lines using List.reverseRecOn with
  | nil => rfl
  | append_singleton lines line ih =>
      rw [List.map_append, List.map_singleton, List.foldl_append, ih, List.foldl_cons,
        List.foldl_nil, readPart_eventText undoes, rtake_rtake_concat]

end LogStreamState

/-- **The encoder and the decoder agree.**  However the events of these lines are cut
into chunks, the view ends with the last 500 of the lines, in order, and with an empty
buffer. -/
theorem log_stream_round_trip (parse : List Char → Option (List Char))
    (undoes : ∀ text, parse (JsonString.marshalString (text.map some)) = some text)
    (lines : List (List Char)) (chunks : List Bytes)
    (received : chunks.flatten = (lines.map utf8).flatMap sseEvent) :
    (LogStreamState.readAll parse chunks).lines = some (lines.rtake 500) ∧
      (LogStreamState.readAll parse chunks).buffer = [] := by
  have noMark : ((lines.map LogStreamState.eventText).flatMap fun text => text ++ ['\n', '\n']).head? ≠
      some TextDecoder.byteOrderMark := by
    cases lines with
    | nil => exact nofun
    | cons line lines =>
        have first : some 'd' ≠ some TextDecoder.byteOrderMark := by decide
        exact first
  have clean : ∀ piece ∈ lines.map LogStreamState.eventText, '\n' ∉ piece := by
    intro piece member
    obtain ⟨line, -, rfl⟩ := List.mem_map.mp member
    exact LogStreamState.newline_not_mem_eventText line
  have pieces := cut_pieces clean
  have text := TextDecoder.decode_encode noMark
  rw [LogStreamState.readAll_flatten, received, LogStreamState.events_encode]
  simp only [LogStreamState.feed, LogStreamState.start, text, List.nil_append, pieces,
    LogStreamState.readParts_eventText undoes, and_self]

/-- One line with a quote and a letter of two bytes, in chunks that cut the marker, that
letter and the line breaks. -/
theorem log_stream_round_trip_cut :
    (LogStreamState.readAll JsonString.parseString
      [[100, 97], [116, 97, 58, 32, 34, 92, 34, 195], [169, 34, 10], [10]]).lines =
        some [[JsonString.doubleQuote, Char.ofNat 233]] :=
  (log_stream_round_trip JsonString.parseString JsonString.parseString_marshalString
    [[JsonString.doubleQuote, Char.ofNat 233]] _ (by decide +kernel)).1

end VpsDashboard.Frontend
