import HostAgent.Container

/-!
# Ignore entries

The central server keeps a list of containers that were removed on purpose and
must not be recorded again. An entry names the container and says why and when.
-/

namespace HostAgent

open Json (Decoder Fields always)

structure IgnoreEntry where
  containerId : String
  reason : String
  timestamp : Timestamp
deriving DecidableEq, Repr

namespace IgnoreEntry

def fields : Fields IgnoreEntry :=
  .mk <$> Fields.required "container_id" Decoder.string
    <*> Fields.withDefault "reason" Decoder.string ""
    <*> Fields.required "timestamp" Timestamp.decoder

def decoder : Decoder IgnoreEntry := fields.decode

def toJson (e : IgnoreEntry) : Json :=
  .record [
    always "container_id" (.string e.containerId),
    always "reason" (.string e.reason),
    always "timestamp" e.timestamp.toJson]

end IgnoreEntry

end HostAgent
