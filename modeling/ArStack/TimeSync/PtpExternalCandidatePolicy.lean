import Mathlib.Data.List.FinRange
import Mathlib.Data.List.Lex
import ArStack.TimeSync.PtpDisciplineTypes

/-!
# Candidates for an external grandmaster

A table of four slots follows the announces of foreign clocks. Times are milliseconds; every
subtraction of the source stands behind the comparison that keeps it from wrapping.

* `PtpAnnounceRank`, `PtpAnnounceRank.orderKey`
* `PtpExternalCandidateGate.observe`, `PtpExternalCandidateGate.stable`
-/

namespace ArStack.TimeSync

structure PtpAnnounceRank where
  priority1 : UInt8 := 255
  clockClass : UInt8 := 255
  clockAccuracy : UInt8 := 255
  variance : UInt16 := 65535
  priority2 : UInt8 := 255
  gmIdentity : PtpClockIdentity := Vector.replicate 8 0
  stepsRemoved : UInt16 := 65535
  sourceIdentity : PtpClockIdentity := Vector.replicate 8 0
  sourcePort : UInt16 := 0
  deriving DecidableEq

namespace PtpAnnounceRank

/-- The fields that order the clocks, compared one after the other. -/
def orderKey (rank : PtpAnnounceRank) : List Nat :=
  [rank.priority1.toNat, rank.clockClass.toNat, rank.clockAccuracy.toNat, rank.variance.toNat,
    rank.priority2.toNat] ++ rank.gmIdentity.toList.map UInt8.toNat ++ [rank.stepsRemoved.toNat]

/-- The port that announces. -/
def source (rank : PtpAnnounceRank) : PtpClockIdentity × UInt16 :=
  (rank.sourceIdentity, rank.sourcePort)

end PtpAnnounceRank

structure PtpCandidateSlot where
  rank : PtpAnnounceRank := {}
  firstMs : Nat := 0
  lastMs : Nat := 0
  observations : Nat := 0
  occupied : Bool := false
  deriving DecidableEq

/-- A slot that a first announce fills. -/
def PtpCandidateSlot.fill (incoming : PtpAnnounceRank) (nowMs : Nat) : PtpCandidateSlot where
  rank := incoming
  firstMs := nowMs
  lastMs := nowMs
  observations := 1
  occupied := true

structure PtpExternalCandidateGate where
  slots : Vector PtpCandidateSlot 4 := Vector.replicate 4 {}
  deriving DecidableEq

namespace PtpExternalCandidateGate

def kStableMs : Nat := 3000

def kStaleMs : Nat := 2500

def kMinAnnounces : Nat := 3

def put (g : PtpExternalCandidateGate) : Fin 4 → PtpCandidateSlot → PtpExternalCandidateGate
  | ⟨i, hi⟩, slot => ⟨g.slots.set i slot hi⟩

def findSource (g : PtpExternalCandidateGate) (rank : PtpAnnounceRank) : Option (Fin 4) :=
  (List.finRange 4).find? fun i =>
    (g.slots.get i).occupied && decide ((g.slots.get i).rank.source = rank.source)

def findFreeOrStale (g : PtpExternalCandidateGate) (nowMs : Nat) : Option (Fin 4) :=
  (List.finRange 4).find? fun i =>
    !(g.slots.get i).occupied || decide (nowMs < (g.slots.get i).lastMs) ||
      decide (nowMs - (g.slots.get i).lastMs > kStaleMs)

/-- The first of the slots with the greatest key. -/
def weakest (g : PtpExternalCandidateGate) : Fin 4 :=
  (List.finRange 4).foldl
    (fun slot other =>
      if (g.slots.get slot).rank.orderKey < (g.slots.get other).rank.orderKey then other
      else slot) 0

/-- The announce is one of a better clock that is not the local one. -/
def acceptable (incoming localRank : PtpAnnounceRank) : Bool :=
  incoming.gmIdentity != localRank.gmIdentity && incoming.stepsRemoved ≤ 255 &&
    incoming.orderKey < localRank.orderKey

def observe (g : PtpExternalCandidateGate) (incoming localRank : PtpAnnounceRank) (nowMs : Nat) :
    PtpExternalCandidateGate :=
  if !acceptable incoming localRank then
    match g.findSource incoming with
    | some i => g.put i {}
    | none => g
  else
    match g.findSource incoming with
    | none =>
      match g.findFreeOrStale nowMs with
      | some i => g.put i (.fill incoming nowMs)
      | none =>
        if !(incoming.orderKey < (g.slots.get g.weakest).rank.orderKey) then g
        else g.put g.weakest (.fill incoming nowMs)
    | some i =>
      let slot := g.slots.get i
      if incoming.orderKey ≠ slot.rank.orderKey || nowMs < slot.lastMs ||
          nowMs - slot.lastMs > kStaleMs then g.put i (.fill incoming nowMs)
      -- announces of one moment count once
      else if nowMs > slot.lastMs then
        g.put i { slot with
          lastMs := nowMs
          observations :=
            if slot.observations < kMinAnnounces then slot.observations + 1 else slot.observations }
      else g

def stable (g : PtpExternalCandidateGate) (nowMs : Nat) : Bool :=
  g.slots.toList.any fun slot =>
    slot.occupied && nowMs ≥ slot.lastMs && nowMs - slot.lastMs ≤ kStaleMs &&
      nowMs ≥ slot.firstMs && nowMs - slot.firstMs ≥ kStableMs && slot.observations ≥ kMinAnnounces

end PtpExternalCandidateGate

end ArStack.TimeSync
