import Ptvsd.ByteStream
import Ptvsd.Json
import Ptvsd.Numeral

/-!
# The JSON Stream

`JsonIOStream` puts every JSON value into a packet: header lines, one of them
`Content-Length`, a blank line, and the value in UTF-8. This module translates
`_read_line`, `read_json` and `write_json`, loop by loop, over the byte streams of
`Ptvsd.ByteStream`.

The loops of the reader take a fuel argument, one unit for each call of the underlying
reader, and return `none` when it does not suffice. `readJson` supplies as much as a call
can ever use (`Ptvsd.Packet`), so `none` means that the call does not return: `_read_line`
spins forever when the stream ends in the middle of a line.

Python's JSON encoder and decoder are parameters, collected in a `Codec`. The texts that
pass between the codec and the stream are strings; UTF-8 is Lean's own.

## Main definitions

* `readJson`: **`read_json`**, with as much fuel as it can use.
* `writeJson`: `write_json`, over a sink that may take a part of what is written only.
* `readJsonTimes`, `writeJsonTimes`: one value after the other.
-/

open ByteStream

namespace Ptvsd

/-- The JSON encoder and decoder of a stream; `none` stands for an exception. -/
structure Codec where
  /-- `encoder.encode(value)`. -/
  encode : Json → Option String
  /-- `decoder.decode(body)`. -/
  decode : String → Option Json

/-- `body.encode("utf-8")`. -/
def encodeUtf8 (text : String) : Bytes := text.toUTF8.data.toList

/-- `body.decode("utf-8")`. -/
def decodeUtf8 (body : Bytes) : Option String := String.fromUTF8? ⟨body.toArray⟩

/-- The exceptions that `read_json` raises. -/
inductive ReadError where
  /-- `NoMoreMessages(text, stream=self)`. -/
  | noMoreMessages (text : String)
  /-- `IOError("Content-Length is missing or invalid:")`. -/
  | contentLength
  /-- The `UnicodeDecodeError` of a body that is not UTF-8. -/
  | unicodeDecode
  /-- The exception that the JSON decoder raised. -/
  | jsonDecode
  deriving DecidableEq

/-- The default text of `NoMoreMessages`. -/
def noMoreMessagesText : String := "No more messages"

/-- `JsonIOStream.MAX_BODY_SIZE`. -/
def maxBodySize : ℕ := 0xFFFFFF

/-! ### Reading -/

/-- `_read_line(reader)`; `line` is what the loop has read so far. -/
def readLine : ℕ → Bytes → Source → Option (Except ReadError Bytes × Source)
  | 0, _, _ => none
  | fuel + 1, line, src =>
      match src.readline with
      | (.error text, src) => some (.error (.noMoreMessages text), src)
      | (.ok piece, src) =>
          let line := line ++ piece
          if line = [] then some (.error (.noMoreMessages noMoreMessagesText), src)
          else if crlf <:+ line then some (.ok (line.take (line.length - 2)), src)
          else readLine fuel line src

/-- `line.partition(b":")`, without the separator. -/
def partitionColon (line : Bytes) : Bytes × Bytes :=
  (line.takeWhile (· ≠ 58), (line.dropWhile (· ≠ 58)).drop 1)

/-- The headers read so far, the latest first, so that a repeated header overrides. -/
abbrev Headers := List (Bytes × Bytes)

/-- `headers[key] = value` for a header line. -/
def Headers.add (headers : Headers) (line : Bytes) : Headers := partitionColon line :: headers

/-- The loop of `read_json` that reads header lines up to the blank one. -/
def readHeaders : ℕ → Headers → Source → Option (Except ReadError Headers × Source)
  | 0, _, _ => none
  | fuel + 1, headers, src =>
      match readLine (fuel + 1) [] src with
      | none => none
      | some (.error e, src) => some (.error e, src)
      | some (.ok line, src) =>
          if line = [] then some (.ok headers, src)
          else readHeaders fuel (headers.add line) src

/-- `b"Content-Length"`. -/
def contentLengthKey : Bytes := [67, 111, 110, 116, 101, 110, 116, 45, 76, 101, 110, 103, 116, 104]

/-- The length announced by the headers, or `none` if it is missing, not a number, or not
between zero and `MAX_BODY_SIZE`. -/
def Headers.contentLength (headers : Headers) : Option ℕ := do
  let value ← headers.lookup contentLengthKey
  let length ← Numeral.parseInt value
  if 0 ≤ length ∧ length ≤ maxBodySize then some length.toNat else none

/-- The loop of `read_json` that reads the body; `body` is what it has read so far. -/
def readBody : ℕ → ℕ → Bytes → Source → Option (Except ReadError Bytes × Source)
  | _, 0, body, src => some (.ok body, src)
  | 0, _ + 1, _, _ => none
  | fuel + 1, bodyRemaining + 1, body, src =>
      match src.read (bodyRemaining + 1) with
      | (.error text, src) => some (.error (.noMoreMessages text), src)
      | (.ok chunk, src) =>
          -- `raise EOFError`, whose text is empty
          if chunk = [] then some (.error (.noMoreMessages ""), src)
          else readBody fuel (bodyRemaining + 1 - chunk.length) (body ++ chunk) src

/-- The last part of `read_json`: UTF-8, then JSON. -/
def decodeBody (codec : Codec) (body : Bytes) : Except ReadError Json :=
  match decodeUtf8 body with
  | none => .error .unicodeDecode
  | some text =>
      match codec.decode text with
      | none => .error .jsonDecode
      | some value => .ok value

/-- `read_json(decoder)`, with fuel. -/
def readJsonFuel (codec : Codec) (fuel : ℕ) (src : Source) :
    Option (Except ReadError Json × Source) :=
  match readHeaders fuel [] src with
  | none => none
  | some (.error e, src) => some (.error e, src)
  | some (.ok headers, src) =>
      match headers.contentLength with
      | none => some (.error .contentLength, src)
      | some length =>
          match readBody fuel length [] src with
          | none => none
          | some (.error e, src) => some (.error e, src)
          | some (.ok body, src) => some (decodeBody codec body, src)

/-- `read_json(decoder)`, or `none` if it does not return. -/
def readJson (codec : Codec) (src : Source) : Option (Except ReadError Json × Source) :=
  readJsonFuel codec (src.rest.length + 2) src

/-- The outcomes of `n` consecutive calls of `read_json`, whatever each of them raises, or
`none` if one of them does not return. -/
def readJsonTimes (codec : Codec) : ℕ → Source → Option (List (Except ReadError Json) × Source)
  | 0, src => some ([], src)
  | n + 1, src =>
      match readJson codec src with
      | none => none
      | some (outcome, src) =>
          (readJsonTimes codec n src).map fun p => (outcome :: p.1, p.2)

/-- What a loop that calls `read_json` until it raises gets to see: the values up to the
first exception, and that exception. The list ends without one if a call does not return.
Every value takes up at least two bytes, which bounds the number of calls. -/
def incoming (codec : Codec) : ℕ → Source → List (Except ReadError Json)
  | 0, _ => []
  | fuel + 1, src =>
      match readJson codec src with
      | none => []
      | some (.error e, _) => [.error e]
      | some (.ok value, src) => .ok value :: incoming codec fuel src

/-! ### Writing -/

/-- The exceptions that `write_json` raises. -/
inductive WriteError where
  /-- `NoMoreMessages(stream=self)`: the stream is closed. -/
  | noMoreMessages
  /-- The exception that the JSON encoder raised. -/
  | jsonEncode
  /-- `JsonIOError(stream=self, cause=exc)` for an exception with this text. -/
  | jsonIOError (text : String)
  deriving DecidableEq

/-- `"Content-Length: {0}\r\n\r\n".encode("ascii")`. -/
def header (length : ℕ) : Bytes :=
  contentLengthKey ++ [58, 32] ++ Numeral.decimal length ++ crlf ++ crlf

/-- The loop of `write_json`: `data` is what is left to write. The writer accepts at least
one byte at a time, so that one unit of fuel for each byte suffices. -/
def writeData : ℕ → Bytes → Sink → Except WriteError Unit × Sink
  | 0, _, out => (.ok (), out)
  | fuel + 1, data, out =>
      if data = [] then (.ok (), out)
      else
        match out.write data with
        | (.error text, out) => (.error (.jsonIOError text), out)
        | (.ok none, out) => (.ok (), out)
        | (.ok (some written), out) => writeData fuel (data.drop written) out

/-- `write_json(value, encoder)`; `closed` is the state of the stream. -/
def writeJson (codec : Codec) (closed : Bool) (value : Json) (out : Sink) :
    Except WriteError Unit × Sink :=
  if closed then (.error .noMoreMessages, out)
  else
    match codec.encode value with
    | none => (.error .jsonEncode, out)
    | some text =>
        let body := encodeUtf8 text
        let data := header body.length ++ body
        match writeData data.length data out with
        | (.error e, out) => (.error e, out)
        | (.ok (), out) =>
            match out.flush with
            | .error text => (.error (.jsonIOError text), out)
            | .ok () => (.ok (), out)

/-- `write_json` of one value after another, as long as none of the calls raises. -/
def writeJsonTimes (codec : Codec) : List Json → Sink → Except WriteError Unit × Sink
  | [], out => (.ok (), out)
  | value :: values, out =>
      match writeJson codec false value out with
      | (.error e, out) => (.error e, out)
      | (.ok (), out) => writeJsonTimes codec values out

end Ptvsd
