/-
# VpsDashboard.Frontend.LogPipeline — a container's log on its way into the view

Docker's frames arrive at the server in reads; the server strips their headers and writes
each line as an event; the events arrive at the browser in chunks.  Reads and chunks may be
cut anywhere, inside a header, a character or an event.

* `log_view_received` — at every moment the view shows the last 500 of the lines whose
  events have arrived in full, in order, whatever bytes they are made of;
* `log_view_iff` — after all of them, the last 500 lines of the log if no payload length
  has a newline among its bytes and every two successive reads meet at a newline; and for a
  log of fewer lines, only then.

`JSON.parse` is a parameter, of which only the answers to `json.Marshal` matter.
-/
import VpsDashboard.Frontend.LogStream

namespace VpsDashboard.Frontend

open Foundation Server

set_option autoImplicit false

/-! ## From the read loop to the view -/

/-- A line as it is shown: an invalid byte becomes U+FFFD. -/
def shownLine (line : Bytes) : List Char :=
  (runes line).map fun rune => rune.getD JsonString.replacement

@[simp] theorem shownLine_utf8 (text : List Char) : shownLine (utf8 text) = text := by
  rw [shownLine, runes_encode, List.map_map]
  exact List.map_id text

/-- The text of the event of any line, less the two line breaks at its end. -/
def lineEvent (line : Bytes) : List Char :=
  ['d', 'a', 't', 'a', ':', ' '] ++ JsonString.marshalString (runes line)

theorem newline_not_mem_lineEvent (line : Bytes) : '\n' ∉ lineEvent line := by
  have marker : '\n' ∉ ['d', 'a', 't', 'a', ':', ' '] := by decide
  rw [lineEvent, List.mem_append]
  rintro (inside | inside)
  · exact marker inside
  · exact JsonString.newline_not_mem_marshalString _ inside

theorem sseEvent_eq (line : Bytes) : sseEvent line = utf8 (lineEvent line ++ ['\n', '\n']) := by
  have breaks : utf8 ['\n', '\n'] = [newline, newline] := by decide
  rw [sseEvent, jsonEscapeSSE, lineEvent]
  simp only [utf8_append, breaks]

/-- The text of the events of these lines. -/
def eventsText (lines : List Bytes) : List Char :=
  lines.flatMap fun line => lineEvent line ++ ['\n', '\n']

theorem flatMap_sseEvent (lines : List Bytes) :
    lines.flatMap sseEvent = utf8 (eventsText lines) := by
  induction lines with
  | nil => rfl
  | cons line lines ih =>
      have both : eventsText (line :: lines) = (lineEvent line ++ ['\n', '\n']) ++ eventsText lines :=
        List.flatMap_cons
      rw [List.flatMap_cons, ih, sseEvent_eq, both, utf8_append (lineEvent line ++ _)]

/-- A stream that begins begins with the `d` of a marker. -/
theorem decode_begun {lines : List Bytes} {text : List Char} (begun : text <+: eventsText lines) :
    (TextDecoder.new.decode (utf8 text)).1 = text := by
  apply TextDecoder.decode_encode
  have first : 'd' ≠ TextDecoder.byteOrderMark := by decide
  cases text with
  | nil => simp
  | cons c text =>
      cases lines with
      | nil => simp [eventsText] at begun
      | cons line lines =>
          obtain ⟨rfl, -⟩ := List.cons_prefix_cons.mp begun
          simpa using first

theorem decode_eventsText (lines : List Bytes) :
    (TextDecoder.new.decode (utf8 (eventsText lines))).1 = eventsText lines :=
  decode_begun (List.prefix_refl _)

theorem cut_eventsText (lines : List Bytes) :
    cut '\n' (eventsText lines) = (lines.map lineEvent, []) := by
  have clean : ∀ piece ∈ lines.map lineEvent, '\n' ∉ piece := by
    intro piece member
    obtain ⟨line, -, rfl⟩ := List.mem_map.mp member
    exact newline_not_mem_lineEvent line
  have pieces := cut_pieces clean
  rwa [List.flatMap_map] at pieces

/-- The decoded text of what has arrived: whole events, and less of the next one than would
end it. -/
theorem decode_received {lines : List Bytes} {received : Bytes}
    (begun : received <+: lines.flatMap sseEvent) :
    ∃ rest, (TextDecoder.new.decode received).1 =
        eventsText (arrived sseEvent lines received) ++ rest ∧ cut '\n' rest = ([], rest) := by
  obtain ⟨rest, split, next⟩ := arrived_rest sseEvent begun
  generalize arrived sseEvent lines received = whole at split next
  rw [flatMap_sseEvent] at split
  subst split
  rw [TextDecoder.decode_append, decode_eventsText]
  refine ⟨_, rfl, ?_⟩
  rcases next with ⟨-, rfl⟩ | ⟨line, later, -, short, partly⟩
  · simp [TextDecoder.decode, Utf8.decode, TextDecoder.dropBom]
  · -- the last line break has not arrived, and it is one byte
    have last : sseEvent line = utf8 (lineEvent line ++ ['\n']) ++ [newline] := by
      have breaks : utf8 ['\n'] = [newline] := by decide
      rw [sseEvent_eq, show ['\n', '\n'] = ['\n'] ++ ['\n'] from rfl, ← List.append_assoc,
        utf8_append (lineEvent line ++ ['\n']), breaks]
    rw [last] at short partly
    obtain ⟨more, ended⟩ := (List.prefix_concat_iff.mp short).resolve_left partly
    have unended : eventsText whole ++ (lineEvent line ++ ['\n']) <+:
        eventsText (whole ++ [line]) := ⟨['\n'], by simp [eventsText]⟩
    have decoded := decode_begun unended
    rw [utf8_append, ← ended, TextDecoder.decode_append, TextDecoder.decode_append,
      decode_eventsText, List.append_cancel_left_eq] at decoded
    exact cut_short (newline_not_mem_lineEvent line) ⟨_, decoded⟩

/-- One event adds one line. -/
theorem readPart_lineEvent {parse : List Char → Option (List Char)}
    (undoes : ∀ text, parse (JsonString.marshalString text) =
      some (text.map fun rune => rune.getD JsonString.replacement))
    (lines : List (List Char)) (line : Bytes) :
    LogStreamState.readPart parse (some lines) (lineEvent line) =
      some ((lines ++ [shownLine line]).rtake 500) := by
  have capped : ∀ next : List (List Char), LogStreamState.capLines next = next.rtake 500 := by
    intro next
    rw [LogStreamState.capLines, List.rtake]
    split
    · rfl
    · rw [show next.length - 500 = 0 by omega, List.drop_zero]
  have marked : ['d', 'a', 't', 'a', ':', ' '].isPrefixOf (lineEvent line) = true :=
    List.isPrefixOf_iff_prefix.mpr (List.prefix_append _ _)
  have raw : (lineEvent line).drop 6 = JsonString.marshalString (runes line) := rfl
  rw [LogStreamState.readPart, List.splitOn_eq_singleton (newline_not_mem_lineEvent line),
    List.foldl_cons, List.foldl_nil, LogStreamState.readLine, if_pos marked, raw,
    LogStreamState.appendLine, undoes]
  exact congrArg some (capped _)

theorem readParts_lineEvent {parse : List Char → Option (List Char)}
    (undoes : ∀ text, parse (JsonString.marshalString text) =
      some (text.map fun rune => rune.getD JsonString.replacement)) (lines : List Bytes) :
    (lines.map lineEvent).foldl (LogStreamState.readPart parse) (some []) =
      some ((lines.map shownLine).rtake 500) := by
  induction lines using List.reverseRecOn with
  | nil => rfl
  | append_singleton lines line ih =>
      rw [List.map_append, List.map_singleton, List.foldl_append, ih, List.foldl_cons,
        List.foldl_nil, readPart_lineEvent undoes, rtake_rtake_concat, List.map_append,
        List.map_singleton]

/-- The view shows the last 500 of the lines that have arrived. -/
theorem readAll_arrived {parse : List Char → Option (List Char)}
    (undoes : ∀ text, parse (JsonString.marshalString text) =
      some (text.map fun rune => rune.getD JsonString.replacement))
    {lines : List Bytes} {chunks : List Bytes}
    (received : chunks.flatten <+: lines.flatMap sseEvent) :
    (LogStreamState.readAll parse chunks).lines =
      some (((arrived sseEvent lines chunks.flatten).map shownLine).rtake 500) := by
  obtain ⟨rest, decoded, short⟩ := decode_received received
  have pieces : cut '\n' (eventsText (arrived sseEvent lines chunks.flatten) ++ rest) =
      ((arrived sseEvent lines chunks.flatten).map lineEvent, rest) := by
    rw [cut_append, cut_eventsText, List.nil_append, short, List.append_nil]
  rw [LogStreamState.readAll_flatten]
  simp only [LogStreamState.feed, LogStreamState.start, decoded, List.nil_append, pieces,
    readParts_lineEvent undoes]

/-- **What the view shows at any moment.**  Of a body that the read loop writes, whatever
the reader delivers and however it ends, let some chunks have arrived, cut anywhere: the
view shows the last 500 of the lines whose events they contain in full. -/
theorem log_view_received (parse : List Char → Option (List Char))
    (undoes : ∀ text, parse (JsonString.marshalString text) =
      some (text.map fun rune => rune.getD JsonString.replacement))
    (reads : List Read) (chunks : List Bytes)
    (received : chunks.flatten <+: (streamLoop reads).flatMap sseEvent) :
    (LogStreamState.readAll parse chunks).lines =
      some (((arrived sseEvent (streamLoop reads) chunks.flatten).map shownLine).rtake 500) :=
  readAll_arrived undoes received

/-- Two whole events and a half, one with a byte that is no character. -/
theorem log_view_received_half :
    (LogStreamState.readAll JsonString.parseString
      [[100, 97, 116, 97, 58, 32, 34, 92, 117], [102, 102, 102, 100, 34, 10, 10, 100, 97],
        [116, 97, 58, 32, 34, 98, 34, 10, 10, 100, 97, 116]]).lines =
      some [[JsonString.replacement], ['b']] := by
  have view := log_view_received JsonString.parseString JsonString.parseString_marshalString_runes
    [⟨false, [255, 10, 98, 10, 99, 10], none⟩] [[100, 97, 116, 97, 58, 32, 34, 92, 117],
      [102, 102, 102, 100, 34, 10, 10, 100, 97], [116, 97, 58, 32, 34, 98, 34, 10, 10, 100, 97, 116]]
      (by decide +kernel)
  rw [view]
  decide +kernel

/-! ## From the log to the view -/

/-- A line of a log that is a text. -/
structure LogText extends LogEntry where
  text : List Char
  spelled : line = utf8 text

section Pipeline

variable {parse : List Char → Option (List Char)}
  (undoes : ∀ text, parse (JsonString.marshalString text) =
    some (text.map fun rune => rune.getD JsonString.replacement))
  {log : List LogText} {reads : List Chunk} {chunks : List Bytes}

/-- No byte of the length of a payload is a newline, and successive reads meet at one. -/
structure Unbroken (log : List LogText) (reads : List Chunk) : Prop where
  lengths : ∀ e ∈ log, newline ∉ bigEndian (e.line.length + 1)
  reads : (reads.map Chunk.bytes).IsChain (MeetAt newline)

/-- An unbroken log is emitted line by line. -/
theorem streamLoop_unbroken
    (sent : reads.flatMap Chunk.bytes = (log.map LogText.toLogEntry).flatMap LogEntry.frame)
    (unbroken : Unbroken log reads) :
    (streamLoop (delivering reads)).map shownLine = log.map LogText.text := by
  have intact : ∀ e ∈ log.map LogText.toLogEntry, newline ∉ e.header := by
    intro e member broken
    obtain ⟨line, inside, rfl⟩ := List.mem_map.mp member
    exact unbroken.lengths line inside (line.newline_mem_header.mp broken)
  have nonempty : ∀ part ∈ reads.map Chunk.bytes, part ≠ [] := by
    intro part member
    obtain ⟨chunk, -, rfl⟩ := List.mem_map.mp member
    exact chunk.nonempty
  have whole : streamLoop (delivering reads) = batchLines (reads.flatMap Chunk.bytes) := by
    have joined : (reads.map Chunk.bytes).flatten = reads.flatMap Chunk.bytes := rfl
    rw [streamLoop_delivering, batchLines, ← joined, ← flatMap_fields nonempty unbroken.reads,
      List.map_flatMap, List.flatMap_map]
    rfl
  rw [whole, sent, batchLines_intact intact, List.map_map, List.map_map]
  apply List.map_congr_left
  intro e _
  show shownLine e.line = e.text
  rw [e.spelled, shownLine_utf8]

/-- A log that is emitted in as many lines as it has is unbroken. -/
theorem unbroken_of_length
    (sent : reads.flatMap Chunk.bytes = (log.map LogText.toLogEntry).flatMap LogEntry.frame)
    (counted : (streamLoop (delivering reads)).length = log.length) : Unbroken log reads := by
  have nonempty : ∀ part ∈ reads.map Chunk.bytes, part ≠ [] := by
    intro part member
    obtain ⟨chunk, -, rfl⟩ := List.mem_map.mp member
    exact chunk.nonempty
  have emitted : (streamLoop (delivering reads)).length =
      ((reads.map Chunk.bytes).flatMap (fields newline)).length := by
    rw [streamLoop_delivering, List.flatMap_map]
    simp [batchLines, List.length_flatMap]
  have whole : (batchLines (reads.flatMap Chunk.bytes)).length =
      (fields newline (reads.map Chunk.bytes).flatten).length := by
    rw [batchLines, List.length_map]
    rfl
  have split : (fields newline (reads.map Chunk.bytes).flatten).length ≤
      ((reads.map Chunk.bytes).flatMap (fields newline)).length :=
    length_fields_flatten_le _
  have atLeast := length_batchLines_ge (log.map LogText.toLogEntry)
  rw [← sent, List.length_map] at atLeast
  constructor
  case lengths =>
    intro e member broken
    have more := length_batchLines_gt (List.mem_map_of_mem member)
      (e.newline_mem_header.mpr broken)
    rw [← sent, List.length_map] at more
    omega
  case reads =>
    apply (length_flatMap_fields_iff nonempty).mp
    omega

include undoes in
/-- **A log arrives as it was written.**  Whatever way the bytes of the daemon are cut into
reads and the events into chunks, the view ends with the last 500 lines of an unbroken log;
of a log of fewer lines it ends with those lines only if the log is unbroken. -/
theorem log_view_iff
    (sent : reads.flatMap Chunk.bytes = (log.map LogText.toLogEntry).flatMap LogEntry.frame)
    (received : chunks.flatten = (streamLoop (delivering reads)).flatMap sseEvent) :
    (Unbroken log reads →
        (LogStreamState.readAll parse chunks).lines = some ((log.map LogText.text).rtake 500)) ∧
      (log.length < 500 →
        ((LogStreamState.readAll parse chunks).lines = some (log.map LogText.text) ↔
          Unbroken log reads)) := by
  have begun : chunks.flatten <+: (streamLoop (delivering reads)).flatMap sseEvent :=
    ⟨[], (List.append_nil _).trans received⟩
  have view := readAll_arrived undoes begun
  rw [received, arrived_all] at view
  have shown (unbroken : Unbroken log reads) :
      (LogStreamState.readAll parse chunks).lines = some ((log.map LogText.text).rtake 500) := by
    rw [view, streamLoop_unbroken sent unbroken]
  refine ⟨shown, fun few => ⟨fun same => ?_, fun unbroken => ?_⟩⟩
  · apply unbroken_of_length sent
    have counted := congrArg List.length (Option.some.inj (view.symm.trans same))
    simp only [List.rtake, List.length_drop, List.length_map] at counted
    omega
  · rw [shown unbroken, List.rtake, List.length_map, Nat.sub_eq_zero_of_le (by omega),
      List.drop_zero]

end Pipeline

/-- Two lines, one on each stream. -/
def logTexts : List LogText :=
  [{ stream := .stdout, line := [50, 97], nonempty := by decide, oneLine := by decide,
     printable := by decide, short := by decide, text := ['2', 'a'], spelled := by decide },
   { stream := .stderr, line := [51, 195, 169], nonempty := by decide, oneLine := by decide,
     printable := by decide, short := by decide, text := ['3', Char.ofNat 233],
     spelled := by decide }]

def readOf (bytes : Bytes) (nonempty : bytes ≠ []) (fits : bytes.length ≤ 4096) : Chunk :=
  ⟨bytes, nonempty, fits⟩

/-- The first read ends with the first frame. -/
def wholeReads : List Chunk :=
  [readOf [1, 0, 0, 0, 0, 0, 0, 3, 50, 97, 10] (by decide) (by decide),
    readOf [2, 0, 0, 0, 0, 0, 0, 4, 51, 195, 169, 10] (by decide) (by decide)]

/-- The first read ends in the middle of the second line. -/
def cutReads : List Chunk :=
  [readOf [1, 0, 0, 0, 0, 0, 0, 3, 50, 97, 10, 2, 0, 0, 0, 0, 0, 0, 4, 51] (by decide) (by decide),
    readOf [195, 169, 10] (by decide) (by decide)]

/-- The rule for them, with the events in one chunk. -/
theorem log_view_iff_cut :
    (LogStreamState.readAll JsonString.parseString
        [(streamLoop (delivering wholeReads)).flatMap sseEvent]).lines =
      some [['2', 'a'], ['3', Char.ofNat 233]] ∧
      (LogStreamState.readAll JsonString.parseString
        [(streamLoop (delivering cutReads)).flatMap sseEvent]).lines ≠
      some [['2', 'a'], ['3', Char.ofNat 233]] := by
  have undoes := JsonString.parseString_marshalString_runes
  constructor
  · have sent : wholeReads.flatMap Chunk.bytes =
        (logTexts.map LogText.toLogEntry).flatMap LogEntry.frame := by decide
    have rule := log_view_iff undoes sent List.flatten_singleton
    refine (rule.2 (by decide)).mpr ⟨by decide, ?_⟩
    simp [wholeReads, readOf, MeetAt, newline]
  · have sent : cutReads.flatMap Chunk.bytes =
        (logTexts.map LogText.toLogEntry).flatMap LogEntry.frame := by decide
    have rule := log_view_iff undoes sent List.flatten_singleton
    intro same
    have unbroken := ((rule.2 (by decide)).mp same).reads
    simp [cutReads, readOf, MeetAt, newline] at unbroken

end VpsDashboard.Frontend
