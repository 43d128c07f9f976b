import LightingNet.Proofs.Simulation.Requests
import LightingNet.Simulation.Gateway
/-!
# Polls and tables between the library and the simulation

The simulated gateway sees in polls and requests for tables what the library wrote there. Its blocks
are datagrams of the library; its poll replies are not, since it copies names as they are, but the
library finds every other field where the gateway put it.
-/
namespace LightingNet

namespace Reader

private theorem bind_text_append {β : Type} (f : String → Reader β) {width : Nat} {field : Bytes}
    (h : field.length = width) (rest : Bytes) :
    (text width >>= f) (field ++ rest) = f (fieldText field) rest := by
  subst h
  rw [bind_apply, text, bind_apply, span_append]
  rfl

end Reader

namespace Simulation

section Queries

theorem operation?_poll (p : Poll) : operation? (Message.poll p).toBytes = some 0x2000 := by
  rw [Message.toBytes_eq_image]
  exact operation?_header .poll _

private theorem operation?_todControl (c : TodControl) :
    operation? (Message.todControl c).toBytes = some 0x8200 := by
  rw [Message.toBytes_eq_image]
  exact operation?_header .todControl _

private theorem operation?_todRequest (r : TodRequest) :
    operation? (Message.todRequest r).toBytes = some 0x8000 := by
  rw [Message.toBytes_eq_image]
  exact operation?_header .todRequest _

theorem tableQuery?_flush (p : PortAddress) :
    tableQuery? (Message.todControl (.flush p)).toBytes = some ⟨p.net &&& 0x7f, [p.short]⟩ := by
  have hlength : (Message.todControl (.flush p)).toBytes.length = 24 := Message.length_toBytes _
  have hcommand : byteAt (Message.todControl (.flush p)).toBytes 22 = 1 := by
    rw [Message.toBytes_eq_image]
    rfl
  have hnet : byteAt (Message.todControl (.flush p)).toBytes 21 = p.net &&& 0x7f := by
    rw [Message.toBytes_eq_image]
    rfl
  have haddress : byteAt (Message.todControl (.flush p)).toBytes 23 = p.short := by
    rw [Message.toBytes_eq_image]
    rfl
  simp [tableQuery?, operation?_todControl, hlength, hcommand, hnet, haddress]

theorem tableQuery?_todRequest (r : TodRequest) :
    tableQuery? (Message.todRequest r).toBytes = some ⟨r.net &&& 0x7f, r.carried⟩ := by
  have hlength : 24 ≤ (Message.todRequest r).toBytes.length := by
    rw [Message.length_toBytes, Message.encodedLength]
    omega
  have hnet : byteAt (Message.todRequest r).toBytes 21 = r.net &&& 0x7f := by
    rw [Message.toBytes_eq_image]
    rfl
  have hcount : (byteAt (Message.todRequest r).toBytes 23).toNat = r.carried.length := by
    have hroom : r.carried.length ≤ 32 := List.length_take_le 32 r.addresses
    rw [Message.toBytes_eq_image]
    exact UInt8.toNat_ofNat_of_lt' (show _ < 256 by omega)
  have hcarried : (Message.todRequest r).toBytes.drop 24 = r.carried := by
    rw [Message.toBytes_eq_image]
    rfl
  simp [tableQuery?, operation?_todRequest, Nat.not_lt.mpr hlength, hnet, hcount, hcarried]

end Queries

section Blocks

variable (net portNumber bindIndex address response : UInt8) (uids : List Rdm.Uid)

def blockData : TodData :=
  ⟨1, portNumber, bindIndex, net, .ofCode response, address, UInt16.ofNat (uids.take 200).length, 0,
    uids⟩

/-- The library reads in a block what the gateway put there: seven bits of the net, and 200
identifiers at most. -/
theorem decode_tableBlock :
    Message.decode (tableBlock net portNumber bindIndex address response uids) =
      .ok (.todData (blockData (net &&& 0x7f) portNumber bindIndex address response
        (uids.take 200))) := by
  let kept := uids.take 200
  have hroom : kept.length ≤ 200 := List.length_take_le 200 uids
  have hcount : (UInt8.ofNat kept.length).toNat = kept.length :=
    UInt8.toNat_ofNat_of_lt' (show _ < 256 by omega)
  let fields := [1, portNumber, 0, 0, 0, 0, 0, 0, bindIndex, net, response, address] ++
    (be16 (UInt16.ofNat kept.length) ++ ([0, UInt8.ofNat kept.length] ++
      kept.flatMap Rdm.Uid.bytes))
  have hsize : Layout.todData.minSize ≤ Layout.todData.headerSize + fields.length := by
    have hheader : Layout.todData.headerSize = 12 := rfl
    simp only [hheader, Layout.minSize, fields, List.length_append, List.length_cons, length_be16]
    omega
  have htable := TodData.uidsFrom_flatMap kept []
  have hskip : ∀ (f : Unit → Reader TodData) (rest : Bytes),
      (Reader.skip 6 >>= f) (0 :: 0 :: 0 :: 0 :: 0 :: 0 :: rest) = f () rest :=
    fun f rest => @Reader.bind_skip_append _ f 6 [0, 0, 0, 0, 0, 0] rfl rest
  have hbytes : tableBlock net portNumber bindIndex address response uids =
      Message.header Layout.todData.opcode ++ fields := by
    simp only [tableBlock, fields, List.append_assoc]
    rfl
  rw [List.append_nil] at htable
  rw [hbytes, Message.decode_header .todData _ hsize, Message.readFields]
  simp only [TodData.read, fields, List.cons_append, List.nil_append, Reader.bind_byte_cons, hskip,
    Reader.undoes_beWord.bind, Reader.bind_remaining, Reader.pure_apply, hcount, htable]
  simp only [blockData, List.take_take, Nat.min_self]
  rfl

variable {net uids}

theorem decode_tableBlock_of_fits (hnet : net ≤ 0x7f) (huids : uids.length ≤ 200) :
    Message.decode (tableBlock net portNumber bindIndex address response uids) =
      .ok (.todData (blockData net portNumber bindIndex address response uids)) := by
  rw [decode_tableBlock, (and_seven_bits_iff _).mpr hnet, List.take_of_length_le huids]

end Blocks

private theorem filterMap_range_getElem? {α β : Type} (f : α → β) (xs : List α) :
    ((List.range xs.length).filterMap fun i => xs[i]?.map f) = xs.map f := by
  induction xs with
  | nil => rfl
  | cons x xs ih =>
    have hrest : (fun i => (x :: xs)[i]?.map f) ∘ Nat.succ = fun i => xs[i]?.map f := rfl
    rw [List.length_cons, List.range_succ_eq_map, List.filterMap_cons, List.filterMap_map, hrest, ih]
    rfl

section Fours

variable {α : Type} (f : α → UInt8) (xs : List α)

theorem length_fourOf : (fourOf f xs).length = 4 := by
  simp only [fourOf, List.length_append, List.length_map, List.length_take, List.length_replicate]
  omega

def fourField : Octets 4 := ⟨(fourOf f xs).toArray, length_fourOf f xs⟩

private theorem toList_fourField : (fourField f xs).toList = fourOf f xs := rfl

variable {xs}

private theorem slotByte_fourField {slot : Nat} (h : slot < xs.length) (hfour : xs.length ≤ 4) :
    PollReply.slotByte (fourField f xs) slot = f xs[slot] := by
  have hkept : (xs.take 4).map f = xs.map f := by rw [List.take_of_length_le hfour]
  have hslot : (fourField f xs)[slot]? = some (f xs[slot]) := by
    rw [← Vector.getElem?_toList, toList_fourField, fourOf, hkept,
      List.getElem?_append_left (by simpa using h), List.getElem?_map, List.getElem?_eq_getElem h]
    rfl
  rw [PollReply.slotByte, hslot, Option.getD_some]

end Fours

private theorem length_nameBytes {width : Nat} (h : 0 < width) (s : String) :
    (nameBytes width s).length = width := by
  simp only [nameBytes, List.length_append, List.length_take, List.length_replicate]
  omega

namespace Setup

variable (s : Setup)

def replyOf (b : Binding) (ip : Ipv4) (port : UInt16) : PollReply :=
  { PollReply.blank with
    ip, port
    firmwareVersion := 0x0100
    netSwitch := s.net &&& 0x7f
    subSwitch := s.subnet &&& 0x0f
    status1 := 2
    estaManufacturer := s.estaManufacturer
    shortName := fieldText (nameBytes 18 s.shortName)
    longName := fieldText (nameBytes 64 s.longName)
    nodeReport := fieldText (nameBytes 64 "#0001 [0000] Power On Tests successful")
    numPorts := UInt16.ofNat (min b.outputs.length 4)
    portTypes := fourField (fun _ => 0x80) b.outputs
    goodOutputA := fourField (fun _ => 0x80) b.outputs
    swOut := fourField (fun o => lowNibble o.uni) b.outputs
    bindIp := s.bindIp
    bindIndex := b.bindIndex }

def replyFields (b : Binding) (ip : Ipv4) (port : UInt16) : Bytes :=
  ip.numbers ++ (le16 port ++ (be16 0x0100 ++ (s.net :: s.subnet :: (be16 0 ++ (0 :: 2 ::
    (le16 s.estaManufacturer ++ (nameBytes 18 s.shortName ++ (nameBytes 64 s.longName ++
    (nameBytes 64 "#0001 [0000] Power On Tests successful" ++
    (be16 (UInt16.ofNat (min b.outputs.length 4)) ++
    ((fourField (fun _ => 0x80) b.outputs).toList ++ ((Octets.zero 4).toList ++
    ((fourField (fun _ => 0x80) b.outputs).toList ++ ((Octets.zero 4).toList ++
    ((fourField (fun o => lowNibble o.uni) b.outputs).toList ++
    (0 :: 0 :: 0 :: ([0, 0, 0] ++ (0 :: ((Octets.zero 6).toList ++ (s.bindIp.numbers ++
    (b.bindIndex :: 0 :: ((Octets.zero 4).toList ++ (0 :: (Rdm.Uid.zero.bytes ++ (be16 0 ++
    (be16 0 ++ List.replicate 11 0))))))))))))))))))))))))))

private theorem pollReply_eq (b : Binding) (ip : Ipv4) (port : UInt16) :
    pollReply s b ip port = Message.header .pollReply ++ s.replyFields b ip port := by
  have hheader : Message.header .pollReply = opening ++ le16 0x2100 := by decide
  have hunused : (Octets.zero 4).toList = List.replicate 4 0 := rfl
  have hstyle : (0 :: 0 :: 0 :: ([0, 0, 0] ++ (0 :: (Octets.zero 6).toList)) : Bytes) =
      List.replicate 13 0 := rfl
  have hrest : (0 :: ((Octets.zero 4).toList ++ (0 :: (Rdm.Uid.zero.bytes ++ (be16 0 ++ (be16 0 ++
      List.replicate 11 0)))))) = List.replicate 27 0 := rfl
  unfold pollReply replyFields
  rw [hheader, ← hstyle, ← hrest, ← hunused]
  simp only [toList_fourField, List.append_assoc, List.cons_append, List.nil_append]
  rfl

private theorem length_replyFields (b : Binding) (ip : Ipv4) (port : UInt16) :
    (s.replyFields b ip port).length = 229 := by
  simp only [replyFields, Ipv4.numbers, Rdm.Uid.length_bytes, List.length_append, length_be16,
    length_le16, length_be32, Vector.length_toList, List.length_replicate, List.length_cons,
    List.length_nil, length_nameBytes (show 0 < 18 by decide),
    length_nameBytes (show 0 < 64 by decide)]

private theorem read_replyFields (b : Binding) (ip : Ipv4) (port : UInt16) :
    PollReply.read (s.replyFields b ip port) =
      some (s.replyOf b ip port, List.replicate 11 0) := by
  unfold replyFields
  simp only [PollReply.read, Reader.undoes_ipv4.bind, Reader.undoes_leWord.bind,
    Reader.undoes_beWord.bind, Reader.bind_byte_cons,
    Reader.bind_text_append _ (length_nameBytes (show 0 < 18 by decide) _),
    Reader.bind_text_append _ (length_nameBytes (show 0 < 64 by decide) _),
    (Reader.undoes_octets 4).bind, Reader.bind_skip_append _ (show [0, 0, 0].length = 3 from rfl),
    (Reader.undoes_octets 6).bind, Reader.undoes_ipv4OrZero.bind, Reader.bind_byteOrZero_cons,
    (Reader.undoes_octetsOrZero 4).bind, Reader.undoes_uidOrZero.bind,
    Reader.undoes_beWordOrZero.bind, Reader.pure_apply]
  rfl

/-- The library finds in a poll reply what the gateway put there. -/
theorem decode_pollReply (b : Binding) (ip : Ipv4) (port : UInt16) :
    Message.decode (pollReply s b ip port) = .ok (.pollReply (s.replyOf b ip port)) := by
  have hsize : Layout.pollReply.minSize ≤
      Layout.pollReply.headerSize + (s.replyFields b ip port).length := by
    rw [length_replyFields]
    decide
  rw [pollReply_eq, show OpCode.pollReply = Layout.pollReply.opcode from rfl,
    Message.decode_header .pollReply _ hsize, Message.readFields, read_replyFields]
  rfl

def universeOf (o : Output) : PortAddress := ⟨s.net, s.subnet, lowNibble o.uni⟩

private theorem short_universeOf (o : Output) : (s.universeOf o).short = s.addressOf o := rfl

section InRange

variable {s} (hnet : s.net ≤ 0x7f) (hsubnet : s.subnet ≤ 0x0f)

include hnet hsubnet

theorem universeOf_inRange (o : Output) : (s.universeOf o).InRange :=
  ⟨hnet, hsubnet, (and_four_bits_iff _).mp (and_mask_idem o.uni 0x0f)⟩

theorem ofShort_addressOf (o : Output) :
    PortAddress.ofShort s.net (s.addressOf o) = s.universeOf o :=
  PortAddress.ofShort_short (universeOf_inRange hnet hsubnet o)

theorem addressOf_eq_iff (o o' : Output) :
    s.addressOf o = s.addressOf o' ↔ s.universeOf o = s.universeOf o' := by
  constructor
  · intro h
    rw [← ofShort_addressOf hnet hsubnet, h, ofShort_addressOf hnet hsubnet]
  · intro h
    rw [← short_universeOf, h, short_universeOf]

theorem outputs_replyOf {b : Binding} (hfour : b.outputs.length ≤ 4) (ip : Ipv4) (port : UInt16) :
    (s.replyOf b ip port).outputs = b.outputs.map s.universeOf := by
  have hcount : (s.replyOf b ip port).portCount = b.outputs.length := by
    simp only [PollReply.portCount, replyOf, Nat.min_eq_left hfour]
    rw [UInt16.toNat_ofNat_of_lt' (show _ < 65536 by omega), Nat.min_eq_left hfour]
  have hslot (slot : Nat) :
      (s.replyOf b ip port).output? slot = b.outputs[slot]?.map s.universeOf := by
    rw [PollReply.output?, hcount]
    by_cases h : slot < b.outputs.length
    · have htype : bitSet (PollReply.slotByte (s.replyOf b ip port).portTypes slot) 7 = true := by
        simp only [replyOf, slotByte_fourField _ h hfour]
        decide
      have hswitch : PollReply.slotByte (s.replyOf b ip port).swOut slot =
          lowNibble b.outputs[slot].uni := slotByte_fourField _ h hfour
      have huniverse : (s.replyOf b ip port).universeOf (s.replyOf b ip port).swOut slot =
          s.universeOf b.outputs[slot] := by
        rw [PollReply.universeOf, hswitch]
        simp only [replyOf, PortAddress.masked, universeOf, lowNibble, and_mask_idem,
          (and_seven_bits_iff _).mpr hnet, (and_four_bits_iff _).mpr hsubnet]
      simp [h, htype, huniverse]
    · simp [h]
  rw [PollReply.outputs, hcount, funext hslot, filterMap_range_getElem?]

end InRange

end Setup

end Simulation

end LightingNet
