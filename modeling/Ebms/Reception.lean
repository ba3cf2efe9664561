import Ebms.Flag
import Ebms.Json.Record

/-!
# Reception awareness and payloads

A processing mode can say whether unacknowledged messages are sent again, how often and after what
time, whether duplicates are dropped, and how payloads are compressed. No bound is put on the
number of retries or the time between them. Times are held in nanoseconds and written in whole
milliseconds, of which a document holds at most 64 bits.
-/

namespace Ebms

open Json (Codec Record)

/-- A span of time in nanoseconds. -/
structure Interval where
  nanoseconds : Nat
  deriving DecidableEq, Repr

namespace Interval

/-- A span of whole milliseconds. -/
def ofMilliseconds (milliseconds : Nat) : Interval :=
  ⟨milliseconds * 1000000⟩

/-- A span of seconds and nanoseconds. -/
def ofSeconds (seconds nanoseconds : Nat) : Interval :=
  ⟨seconds * 1000000000 + nanoseconds⟩

/-- The whole milliseconds of a span, as far as 64 bits hold them. -/
def milliseconds (interval : Interval) : UInt64 :=
  UInt64.ofNat (min (interval.nanoseconds / 1000000) (UInt64.size - 1))

/-- Spans are written in whole milliseconds. -/
def codec : Codec Interval where
  encode interval := .num interval.milliseconds
  decode reading := (Codec.word64.decode reading).map fun n => ofMilliseconds n.toNat

end Interval

/-- How a processing mode deals with messages that are lost or arrive twice. -/
structure ReceptionAwareness where
  enabled : Flag := .undefined
  retry : Flag := .undefined
  maxRetries : UInt32 := 0
  retryInterval : Interval := ⟨0⟩
  duplicateDetection : Flag := .undefined
  deriving DecidableEq, Repr

namespace ReceptionAwareness

/-- The number of retries that is usual. -/
def usualRetries : UInt32 := 1

/-- The time between retries that is usual. -/
def usualInterval : Interval :=
  .ofSeconds 10 0

/-- Everything switched on, with the usual retries. -/
def usual : ReceptionAwareness :=
  ⟨.set true, .set true, usualRetries, usualInterval, .set true⟩

/-- The members of a reception awareness block. -/
def record : Record (Flag × Flag × UInt32 × Interval × Flag × Unit) :=
  .member (.defaulted "enabled" Flag.codec .undefined) <|
  .member (.defaulted "retry" Flag.codec .undefined) <|
  .member (.defaulted "max_retries" .word32 0) <|
  .member (.defaulted "retry_interval" Interval.codec ⟨0⟩) <|
  .member (.defaulted "duplicate_detection" Flag.codec .undefined)
  .done

/-- Reception awareness blocks are records. -/
def codec : Codec ReceptionAwareness :=
  record.codec
    (fun r => (r.enabled, r.retry, r.maxRetries, r.retryInterval, r.duplicateDetection, ()))
    fun (enabled, retry, maxRetries, retryInterval, duplicateDetection, ()) =>
      ⟨enabled, retry, maxRetries, retryInterval, duplicateDetection⟩

end ReceptionAwareness

/-- A compression of payloads. -/
inductive Compression where
  | gzip
  deriving DecidableEq, Repr

namespace Compression

/-- The media type that marks a compressed part. -/
def mediaType : Compression → String
  | .gzip => "application/gzip"

instance : Enumerated Compression where
  all := [.gzip]
  name
    | .gzip => "gzip"

end Compression

/-- How the payloads of a processing mode are handled. -/
structure PayloadService where
  compression : Option Compression := none
  deriving DecidableEq, Repr

namespace PayloadService

/-- The members of a payload block. -/
def record : Record (Option Compression × Unit) :=
  .member (.optional "compression_type" .named)
  .done

/-- Payload blocks are records. -/
def codec : Codec PayloadService :=
  record.codec (fun p => (p.compression, ())) fun (compression, ()) => ⟨compression⟩

end PayloadService

end Ebms
