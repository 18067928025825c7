/-
# VpsDashboard.Server.ContainerLogs — container logs, whole and live

Docker sends the log of a container as frames: an eight-byte header (stream, three
zero bytes, payload length in big-endian order) and a payload.  The server splits
what it receives at newlines first and then takes eight bytes off every piece
that looks like it begins with a header.  The batch path does this to the whole
answer, the live path to every read on its own.

* `stripDockerLogHeaders_frames` — the batch path returns the lines exactly when no
  byte of a payload length is a newline;
* `streamLoop_eq_batchLines` — the live path emits the lines of the batch path
  exactly when every two successive reads meet at a newline.
-/
import VpsDashboard.Foundation.Fields
import VpsDashboard.Foundation.JsonString
import Mathlib.Algebra.Ring.Nat

namespace VpsDashboard.Server

open Foundation

set_option autoImplicit false

abbrev Bytes := List UInt8

def newline : UInt8 := 10

/-! ## Headers and lines -/

def stripDockerLogHeader (line : Bytes) : Bytes :=
  if line.length > 8 ∧ line.headD 0 ≤ 2 then line.drop 8 else line

/-- The lines of a whole answer. -/
def batchLines (data : Bytes) : List Bytes := (fields newline data).map stripDockerLogHeader

def stripDockerLogHeaders (data : Bytes) : Bytes := [newline].intercalate (batchLines data)

/-- The lines of one read; lines that are empty without their header are skipped. -/
def readLines (data : Bytes) : List Bytes :=
  ((fields newline data).map stripDockerLogHeader).filter fun clean => !clean.isEmpty

theorem stripDockerLogHeader_ne_nil {line : Bytes} (nonempty : line ≠ []) :
    stripDockerLogHeader line ≠ [] := by
  unfold stripDockerLogHeader
  split
  · rename_i long
    rw [ne_eq, List.drop_eq_nil_iff]
    omega
  · exact nonempty

theorem newline_not_mem_stripDockerLogHeader {line : Bytes} (oneLine : newline ∉ line) :
    newline ∉ stripDockerLogHeader line := by
  unfold stripDockerLogHeader
  split
  · exact fun found => oneLine (List.mem_of_mem_drop found)
  · exact oneLine

/-- No field is empty without its header. -/
theorem readLines_eq_batchLines (data : Bytes) : readLines data = batchLines data := by
  apply List.filter_eq_self.mpr
  intro clean member
  obtain ⟨line, inside, rfl⟩ := List.mem_map.mp member
  simpa using stripDockerLogHeader_ne_nil (ne_nil_of_mem_fields inside)

/-! ## The two handlers -/

inductive ReadError where
  | eof
  | failed (text : String)

/-- One turn of the read loop: whether the request is over, and what `Read` returns. -/
structure Read where
  contextDone : Bool
  bytes : Bytes
  err : Option ReadError

def jsonEscapeSSE (s : Bytes) : Bytes := utf8 (JsonString.marshalString (runes s))

/-- What is written for one line. -/
def sseEvent (line : Bytes) : Bytes :=
  utf8 ['d', 'a', 't', 'a', ':', ' '] ++ jsonEscapeSSE line ++ [newline, newline]

/-- The lines that the read loop emits, one event each. -/
def streamLoop : List Read → List Bytes
  | [] => []
  | read :: later =>
      if read.contextDone then []
      else
        (if read.bytes.length > 0 then readLines read.bytes else []) ++
          if read.err.isSome then [] else streamLoop later

inductive LogResponse where
  | error (status : Nat) (text : String)
  | text (body : Bytes)
  | events (lines : List Bytes)

/-- `fetched` is what `StreamLogs` and then `io.ReadAll` return. -/
def handleContainerLogsBatch (fetched : Except String (Except String Bytes)) : LogResponse :=
  match fetched with
  | .error _ => .error 500 "failed to fetch logs"
  | .ok (.error _) => .error 500 "failed to read logs"
  | .ok (.ok data) => .text (stripDockerLogHeaders data)

/-- `followed` is what `StreamLogs` returns, and what its reader does. -/
def handleContainerLogs (stream : Bool) (fetched : Except String (Except String Bytes))
    (followed : Except String (List Read)) (flusher : Bool) : LogResponse :=
  if !stream then handleContainerLogsBatch fetched
  else
    match followed with
    | .error _ => .error 500 "failed to stream logs"
    | .ok reads => if !flusher then .error 500 "streaming not supported" else .events (streamLoop reads)

/-! ## Docker's frames -/

inductive LogStream where
  | stdout
  | stderr

def LogStream.code : LogStream → UInt8
  | .stdout => 1
  | .stderr => 2

/-- Four bytes, the most significant one first. -/
def bigEndian (n : Nat) : Bytes :=
  [UInt8.ofNat (n / 2 ^ 24), UInt8.ofNat (n / 2 ^ 16), UInt8.ofNat (n / 2 ^ 8), UInt8.ofNat n]

/-- One line of a log as a container writes it; with its timestamp it begins with
a digit. -/
structure LogEntry where
  stream : LogStream
  line : Bytes
  nonempty : line ≠ []
  oneLine : newline ∉ line
  printable : 2 < line.headD 0
  short : line.length < 2 ^ 32 - 1

namespace LogEntry

/-- The payload is the line and its newline. -/
def header (e : LogEntry) : Bytes := [e.stream.code, 0, 0, 0] ++ bigEndian (e.line.length + 1)

def frame (e : LogEntry) : Bytes := e.header ++ e.line ++ [newline]

@[simp] theorem length_header (e : LogEntry) : e.header.length = 8 := rfl

theorem code_ne_newline (stream : LogStream) : stream.code ≠ newline := by
  cases stream <;> decide

theorem code_le_two (stream : LogStream) : stream.code ≤ 2 := by
  cases stream <;> decide

theorem newline_mem_header (e : LogEntry) :
    newline ∈ e.header ↔ newline ∈ bigEndian (e.line.length + 1) := by
  have code := (code_ne_newline e.stream).symm
  have zero : newline ≠ 0 := by decide
  simp [header, code, zero]

/-- A frame with an intact header is one field, and its line is what remains of it. -/
theorem strip_intact (e : LogEntry) (intact : newline ∉ e.header) :
    (fields newline (e.header ++ e.line)).map stripDockerLogHeader = [e.line] := by
  have oneField : newline ∉ e.header ++ e.line := by
    simpa using ⟨intact, e.oneLine⟩
  have long : (e.header ++ e.line).length > 8 := by
    have filled := List.length_pos_iff.mpr e.nonempty
    rw [List.length_append, length_header]
    omega
  have marked : (e.header ++ e.line).headD 0 ≤ 2 := code_le_two e.stream
  rw [fields_of_not_mem oneField (by simp [e.nonempty]), List.map_singleton, stripDockerLogHeader,
    if_pos ⟨long, marked⟩]
  rfl

/-- A header with a newline in it makes at least two fields of its frame. -/
theorem fields_broken (e : LogEntry) (broken : newline ∈ e.header) :
    2 ≤ (fields newline (e.header ++ e.line)).length := by
  obtain ⟨before, after, split⟩ := List.append_of_mem broken
  have begun : before ≠ [] := by
    rintro rfl
    exact code_ne_newline e.stream (List.cons_eq_cons.mp split).1
  have first : fields newline before ≠ [] := by
    obtain ⟨code, rest, rfl⟩ := List.exists_cons_of_ne_nil begun
    have code : e.stream.code = code := (List.cons_eq_cons.mp split).1
    exact fields_ne_nil List.mem_cons_self (code ▸ code_ne_newline e.stream)
  have second : fields newline (after ++ e.line) ≠ [] := by
    obtain ⟨b, rest, whole⟩ := List.exists_cons_of_ne_nil e.nonempty
    have inside : b ∈ e.line := by rw [whole]; exact List.mem_cons_self
    apply fields_ne_nil (List.mem_append_right after inside)
    rintro rfl
    exact e.oneLine inside
  rw [split, List.append_assoc, List.cons_append, fields_append_cons, List.length_append]
  have one := List.length_pos_iff.mpr first
  have two := List.length_pos_iff.mpr second
  omega

theorem fields_ne_nil_header (e : LogEntry) : fields newline (e.header ++ e.line) ≠ [] :=
  fields_ne_nil List.mem_cons_self (code_ne_newline e.stream)

end LogEntry

/-- A newline ends every frame, so frames do not share fields. -/
theorem fields_frames (entries : List LogEntry) :
    fields newline (entries.flatMap LogEntry.frame) =
      entries.flatMap fun e => fields newline (e.header ++ e.line) := by
  induction entries with
  | nil => exact fields_nil
  | cons e entries ih =>
      rw [List.flatMap_cons, List.flatMap_cons, LogEntry.frame, List.append_assoc,
        List.singleton_append, fields_append_cons, ih]

theorem batchLines_frames (entries : List LogEntry) :
    batchLines (entries.flatMap LogEntry.frame) =
      entries.flatMap fun e => (fields newline (e.header ++ e.line)).map stripDockerLogHeader := by
  rw [batchLines, fields_frames, List.map_flatMap]

theorem batchLines_intact {entries : List LogEntry}
    (intact : ∀ e ∈ entries, newline ∉ e.header) :
    batchLines (entries.flatMap LogEntry.frame) = entries.map LogEntry.line := by
  rw [batchLines_frames]
  induction entries with
  | nil => rfl
  | cons e entries ih =>
      rw [List.flatMap_cons, e.strip_intact (intact e List.mem_cons_self), List.map_cons,
        ih fun other member => intact other (List.mem_cons_of_mem _ member)]
      rfl

theorem length_batchLines_ge (entries : List LogEntry) :
    entries.length ≤ (batchLines (entries.flatMap LogEntry.frame)).length := by
  rw [batchLines_frames]
  induction entries with
  | nil => exact Nat.le_refl 0
  | cons e entries ih =>
      have one := List.length_pos_iff.mpr e.fields_ne_nil_header
      rw [List.flatMap_cons, List.length_append, List.length_map, List.length_cons]
      omega

/-- One broken header is enough for a line too many. -/
theorem length_batchLines_gt {entries : List LogEntry} {e : LogEntry} (member : e ∈ entries)
    (broken : newline ∈ e.header) :
    entries.length < (batchLines (entries.flatMap LogEntry.frame)).length := by
  obtain ⟨before, after, rfl⟩ := List.append_of_mem member
  have left := length_batchLines_ge before
  have right := length_batchLines_ge after
  have two := e.fields_broken broken
  rw [batchLines_frames] at left right ⊢
  simp only [List.flatMap_append, List.flatMap_cons, List.length_append, List.length_cons,
    List.length_map]
  omega

theorem newline_not_mem_batchLines {data line : Bytes} (member : line ∈ batchLines data) :
    newline ∉ line := by
  obtain ⟨piece, inside, rfl⟩ := List.mem_map.mp member
  exact newline_not_mem_stripDockerLogHeader (not_mem_of_mem_fields inside)

/-- **Demultiplexing undoes the framing**, for the frames of these lines, if and only
if no byte of the length of any payload is a newline. -/
theorem stripDockerLogHeaders_frames (entries : List LogEntry) :
    stripDockerLogHeaders (entries.flatMap LogEntry.frame) =
        [newline].intercalate (entries.map LogEntry.line) ↔
      ∀ e ∈ entries, newline ∉ bigEndian (e.line.length + 1) := by
  constructor
  · intro undone e member broken
    have more := length_batchLines_gt member (e.newline_mem_header.mpr broken)
    have lines : batchLines (entries.flatMap LogEntry.frame) = entries.map LogEntry.line := by
      have split := congrArg (List.splitOn newline) undone
      rw [stripDockerLogHeaders, List.splitOn_intercalate, List.splitOn_intercalate] at split
      · exact split
      · intro line member
        obtain ⟨other, -, rfl⟩ := List.mem_map.mp member
        exact other.oneLine
      · exact List.ne_nil_of_mem (List.mem_map_of_mem member)
      · exact fun line => newline_not_mem_batchLines
      · exact List.ne_nil_of_length_pos (by omega)
    rw [lines, List.length_map] at more
    omega
  · intro intact
    rw [stripDockerLogHeaders, batchLines_intact]
    intro e member broken
    exact intact e member (e.newline_mem_header.mp broken)

/-- A line of 265 bytes, its timestamp included: the length of its payload is 266,
in big-endian bytes 0, 0, 1 and 10. -/
def longEntry : LogEntry where
  stream := .stdout
  line := "2024-05-01T00:00:00.000000000Z ".toUTF8.toList ++ List.replicate 234 97
  nonempty := by decide +kernel
  oneLine := by decide +kernel
  printable := by decide +kernel
  short := by decide +kernel

/-- Its header is taken for a line of its own. -/
theorem stripDockerLogHeaders_long :
    stripDockerLogHeaders longEntry.frame = [1, 0, 0, 0, 0, 0, 1] ++ [newline] ++ longEntry.line ∧
      stripDockerLogHeaders longEntry.frame ≠ [newline].intercalate [longEntry.line] := by
  decide +kernel

/-! ## The live path -/

/-- What one successful `Read` into the buffer of 4096 bytes delivers. -/
structure Chunk where
  bytes : Bytes
  nonempty : bytes ≠ []
  fits : bytes.length ≤ 4096

/-- A reader that delivers these chunks and then the end of the stream. -/
def delivering (chunks : List Chunk) : List Read :=
  chunks.map (fun chunk => ⟨false, chunk.bytes, none⟩) ++ [⟨false, [], some .eof⟩]

theorem streamLoop_delivering (chunks : List Chunk) :
    streamLoop (delivering chunks) = chunks.flatMap fun chunk => batchLines chunk.bytes := by
  induction chunks with
  | nil => rfl
  | cons chunk chunks ih =>
      have received : chunk.bytes.length > 0 := List.length_pos_iff.mpr chunk.nonempty
      have next : delivering (chunk :: chunks) = ⟨false, chunk.bytes, none⟩ :: delivering chunks := rfl
      rw [next, streamLoop, List.flatMap_cons]
      simp [received, ih, readLines_eq_batchLines]

/-- **The live path agrees with the batch path** if and only if, wherever the stream
was cut into two reads, the first ends with a newline or the second begins with one. -/
theorem streamLoop_eq_batchLines (chunks : List Chunk) :
    streamLoop (delivering chunks) = batchLines (chunks.flatMap Chunk.bytes) ↔
      (chunks.map Chunk.bytes).IsChain (MeetAt newline) := by
  have nonempty : ∀ part ∈ chunks.map Chunk.bytes, part ≠ [] := by
    intro part member
    obtain ⟨chunk, -, rfl⟩ := List.mem_map.mp member
    exact chunk.nonempty
  have live : streamLoop (delivering chunks) =
      ((chunks.map Chunk.bytes).flatMap (fields newline)).map stripDockerLogHeader := by
    rw [streamLoop_delivering, List.map_flatMap, List.flatMap_map]
    rfl
  have whole : chunks.flatMap Chunk.bytes = (chunks.map Chunk.bytes).flatten := rfl
  rw [live, whole, batchLines]
  constructor
  · intro same
    have counted := congrArg List.length same
    rw [List.length_map, List.length_map] at counted
    exact (length_flatMap_fields_iff nonempty).mp counted
  · intro chain
    rw [flatMap_fields nonempty chain]

/-- One line that arrives in two reads becomes two lines. -/
theorem streamLoop_cut_line :
    ∃ chunks : List Chunk, streamLoop (delivering chunks) = [[104, 101], [108, 108, 111]] ∧
      batchLines (chunks.flatMap Chunk.bytes) = [[104, 101, 108, 108, 111]] :=
  ⟨[⟨[104, 101], by decide, by decide⟩, ⟨[108, 108, 111], by decide, by decide⟩], by rfl, by rfl⟩

end VpsDashboard.Server
