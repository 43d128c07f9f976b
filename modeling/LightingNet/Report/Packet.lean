import LightingNet.Rdm.Packet
import LightingNet.Report.Fields
/-!
# Reports of RDM messages

The fields of an RDM message as a record, and what a message means.
-/
namespace LightingNet.Rdm.Packet

open Report (Field Format Record)

def record : Record Packet where
  fields := [
    .of "destination" .uid destination fun p v => { p with destination := v },
    .of "source" .uid source fun p v => { p with source := v },
    .of "transaction" .byte transaction fun p v => { p with transaction := v },
    .of "port_or_response" .byte portOrResponse fun p v => { p with portOrResponse := v },
    .of "message_count" .byte messageCount fun p v => { p with messageCount := v },
    .of "sub_device" .word subDevice fun p v => { p with subDevice := v },
    .of "command" (.coded .byte CommandClass.code .ofCode) command
      fun p v => { p with command := v },
    .of "parameter" .word parameter fun p v => { p with parameter := v },
    .of "data" .bytes data fun p v => { p with data := v }]
  missing := ⟨.zero, .zero, 0, 0, 0, 0, .ofCode 0, 0, []⟩

/-- What a message means: its parameter and class, and of an answer the kind, the reason of a
refusal and the time to wait. -/
def summary (p : Packet) : Json := .object [
  ("pid", .text p.pid.text),
  ("command", .text p.command.name),
  ("is_response", .bool p.isResponse),
  ("response_type", .orNull (fun r => .text r.name) p.responseType?),
  ("nack_reason", .orNull (fun r => .text r.text) p.nackReason?),
  ("ack_timer_ms", .orNull .nat p.ackTimer?),
  ("encoded_len", .nat p.encodedLength)]

end LightingNet.Rdm.Packet
