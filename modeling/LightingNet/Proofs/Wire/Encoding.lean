import LightingNet.Proofs.Rdm.Packet
import LightingNet.Wire.Message
/-!
# The bytes of a message

A message has exactly the length that is announced for it, so a buffer of that length takes it whole.
-/
namespace LightingNet

theorem length_wireText (room : Nat) (s : String) :
    (wireText room s).length = min (Utf8.ofString s).length room := by
  rw [wireText, List.length_map, List.length_take, Nat.min_comm]

private theorem Rdm.Uid.length_flatMap_bytes (us : List Uid) :
    (us.flatMap bytes).length = us.length * 6 := by
  induction us with
  | nil => rfl
  | cons u us ih =>
    rw [List.flatMap_cons, List.length_append, length_bytes, ih, List.length_cons]
    omega

private theorem PollReply.length_body (r : PollReply) : r.body.length = 229 := by
  -- Not by its equation, which is too long to be checked within the limits.
  unfold PollReply.body
  simp only [Ipv4.numbers, Rdm.Uid.length_bytes, List.length_append, length_textField,
    Vector.length_toList, length_be16, length_le16, length_be32, List.length_replicate,
    List.length_cons, List.length_nil]

namespace Message

theorem length_image (m : Message) : m.image.length = m.encodedLength := by
  cases m with
  | poll p =>
    have hheader : (header .poll).length = 12 := rfl
    simp only [image, encodedLength, Poll.body, List.length_append, length_be16, List.length_cons,
      List.length_nil, hheader]
  | pollReply r =>
    have hheader : (header .pollReply).length = 10 := rfl
    rw [image, encodedLength, List.length_append, PollReply.length_body, hheader]
  | diagnostic d =>
    have hheader : (header .diagData).length = 12 := rfl
    simp only [image, encodedLength, Diagnostic.body, Diagnostic.carried, length_wireText,
      List.length_append, length_be16, List.length_cons, List.length_nil, hheader]
    omega
  | dmx f =>
    have hheader : (header .dmx).length = 12 := rfl
    simp only [image, encodedLength, DmxFrame.body, DmxFrame.carried, List.length_take,
      List.length_append, length_be16, List.length_cons, List.length_nil, hheader]
    omega
  | sync =>
    have hheader : (header .sync).length = 12 := rfl
    rw [image, encodedLength, List.length_append, hheader]
    rfl
  | programming p =>
    have hheader : (header .address).length = 12 := rfl
    simp only [image, encodedLength, NodeProgramming.body, List.length_append, length_textField,
      Vector.length_toList, List.length_cons, List.length_nil, hheader]
  | todRequest r =>
    have hheader : (header .todRequest).length = 12 := rfl
    simp only [image, encodedLength, TodRequest.body, TodRequest.carried, List.length_append,
      List.length_replicate, List.length_take, List.length_cons, List.length_nil, hheader]
    omega
  | todData d =>
    have hheader : (header .todData).length = 12 := rfl
    simp only [image, encodedLength, TodData.body, TodData.carried, List.length_append,
      Rdm.Uid.length_flatMap_bytes, length_be16, List.length_take, List.length_cons,
      List.length_nil, hheader]
    omega
  | todControl c =>
    have hheader : (header .todControl).length = 12 := rfl
    simp only [image, encodedLength, TodControl.body, List.length_append, List.length_replicate,
      List.length_cons, List.length_nil, hheader]
  | rdm e =>
    have hheader : (header .rdm).length = 12 := rfl
    simp only [image, encodedLength, Envelope.body, List.length_append, List.length_replicate,
      Rdm.Packet.length_toBytes, List.length_cons, List.length_nil, hheader]
    omega
  | unsupported op b => rfl

theorem toBytes_eq_image (m : Message) : m.toBytes = m.image := by
  have hroom : (List.replicate m.encodedLength (0 : UInt8)).length = m.encodedLength :=
    List.length_replicate
  have hencode : m.encode (List.replicate m.encodedLength 0) = .ok (m.encodedLength, m.image) := by
    rw [encode, hroom, if_neg (Nat.lt_irrefl _), List.drop_eq_nil_of_le (Nat.le_of_eq hroom),
      List.append_nil]
  simp only [toBytes, hencode]
  exact List.take_of_length_le (Nat.le_of_eq m.length_image)

theorem length_toBytes (m : Message) : m.toBytes.length = m.encodedLength := by
  rw [toBytes_eq_image, length_image]

end Message

end LightingNet
