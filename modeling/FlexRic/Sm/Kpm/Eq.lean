import Mathlib.Algebra.Order.Ring.Rat
import Mathlib.Algebra.Order.Group.Abs
import FlexRic.Sm.Kpm.Formats
import FlexRic.Ue.Eq

/-! # Comparisons and copies of the indications of the KPM service model

`eq_kpm_ind_msg` and `cp_kpm_ind_msg`, v05.00, over floating-point numbers that are rational. Much of what differs is
asserted not to. -/

namespace FlexRic.Sm.Kpm
open Ue (eqNumber eqE2smPlmn eqUeIdE2sm cpE2smPlmn cpUeIdE2sm)

/-! ### Comparisons -/

/-- `0.0001f`, a number of single precision -/
def tolerance : ℚ := 13743895 / 137438953472

def eqByteArray (m0 m1 : List UInt8) : Except String Bool :=
  both (same (m0.length = m1.length)) (memcmp m0 m1 m0.length)

def eqMeasType : MeasType → MeasType → Except String Bool
  | .name m0, .name m1 => eqByteArray m0 m1
  | .id m0, .id m1 => same (m0 = m1)
  | _, _ => return false

def eqLabelInfo (l1 l2 : LabelInfo) : Except String Bool :=
  both (eqPresent eqNumber l1.noLabel l2.noLabel) <| both (eqPresent eqE2smPlmn l1.plmnId l2.plmnId) <| do
    require (l1.hasNotImplemented = false ∧ l2.hasNotImplemented = false) "Not implemented"
    both (eqPresent eqNumber l1.avg l2.avg) do
      require (l1.hasIndex = false ∧ l2.hasIndex = false) "Not implemented"
      return true

def eqTestCondValue : TestCondValue ℚ → TestCondValue ℚ → Except String Bool
  | .integer m0, .integer m1 => same (m0 = m1)
  | .enumerated m0, .enumerated m1 => same (m0 = m1)
  | .boolean m0, .boolean m1 => same (m0 = m1)
  | .bitString _, .bitString _ => throw "Not implemented"
  | .octetString m0, .octetString m1 => eqByteArray m0 m1
  | .printableString m0, .printableString m1 => eqByteArray m0 m1
  | .real m0, .real m1 => same (m0 = m1)
  | .end_, .end_ => throw "Unknown condition"
  | _, _ => return false

def eqTestInfo (m0 m1 : TestInfo ℚ) : Except String Bool :=
  both (same (m0.testCondType = m1.testCondType)) <| both (same (m0.condType = m1.condType)) <|
    both (eqPresent eqNumber m0.testCond m1.testCond) (eqPresent eqTestCondValue m0.testCondValue m1.testCondValue)

def eqLabelOrTest : LabelOrTest ℚ → LabelOrTest ℚ → Except String Bool
  | .labelInfo m0, .labelInfo m1 => orAssert "For debugging purposes" (eqLabelInfo m0 m1)
  | .testInfo m0, .testInfo m1 => orAssert "For debugging purposes" (eqTestInfo m0 m1)
  | _, _ => throw "For debugging purposes"

def eqMatchingCondFrm3 (m0 m1 : MatchingCondFrm3 ℚ) : Except String Bool :=
  both (eqLabelOrTest m0.cond m1.cond) (orAssert "For debugging purposes" (eqRead m0.logicalOr m1.logicalOr))

def eqKpmUeIdGranPeriodLst : UeIdGranPeriod → UeIdGranPeriod → Except String Bool
  | .noneMatched m0, .noneMatched m1 => same (m0 = m1)
  | .oneOrMoreMatched m0, .oneOrMoreMatched m1 => eqList eqUeIdE2sm m0 m1
  | _, _ => return false

/-- Of the last lists the lengths are not compared. -/
def eqKpmMeasInfoCondUe (m0 m1 : MeasInfoCondUe ℚ) : Except String Bool :=
  both (orAssert "For debugging" (eqMeasType m0.measType m1.measType)) <|
    both (orAssert "For debugging" (same (m0.matchingCondLst.length = m1.matchingCondLst.length))) <|
      both (eqArray (fun m0 m1 => orAssert "For debugging" (eqMatchingCondFrm3 m0 m1))
        m0.matchingCondLst m1.matchingCondLst) <|
      both (orAssert "For debugging" (same (m0.ueIdMatchedLst.length = m1.ueIdMatchedLst.length))) <|
        both (eqArray (fun m0 m1 => orAssert "For debugging" (eqUeIdE2sm m0 m1)) m0.ueIdMatchedLst m1.ueIdMatchedLst) <|
          eqArray (fun m0 m1 => orAssert "For debugging" (eqKpmUeIdGranPeriodLst m0 m1))
            m0.ueIdGranPeriodLst m1.ueIdGranPeriodLst

def eqMeasRecord : MeasRecord ℚ → MeasRecord ℚ → Except String Bool
  | .integer m0, .integer m1 => same (m0 = m1)
  | .real m0, .real m1 => same (|m0 - m1| ≤ tolerance)
  | .noValue, .noValue => return true
  | _, _ => return false

def eqMeasDataLst (m0 m1 : MeasData ℚ) : Except String Bool :=
  both (eqList eqMeasRecord m0.measRecordLst m1.measRecordLst) (eqRead m0.incompleteFlag m1.incompleteFlag)

def eqMeasInfoItem (m0 m1 : MeasInfoFrm1) : Except String Bool :=
  both (orAssert "0!=0" (eqMeasType m0.measType m1.measType)) <|
    both (orAssert "0!=0" (same (m0.labelInfoLst.length = m1.labelInfoLst.length))) <|
      eqArray (fun l1 l2 => orAssert "0!=0" (eqLabelInfo l1 l2)) m0.labelInfoLst m1.labelInfoLst

/-- The data of the first message are compared to themselves. -/
def eqKpmIndMsgFrm1 (m0 m1 : IndMsgFrm1 ℚ) : Except String Bool :=
  both (same (m0.measDataLst.length = m1.measDataLst.length)) <|
    both (eqArray (fun m0 m1 => orAssert "0!=0" (eqMeasDataLst m0 m1)) m0.measDataLst m0.measDataLst) <|
      both (orAssert "0!=0" (same (m0.measInfoLst.length = m1.measInfoLst.length))) <|
        both (eqArray eqMeasInfoItem m0.measInfoLst m1.measInfoLst)
          (orAssert "0!=0" (eqRead m0.granPeriodMs m1.granPeriodMs))

def eqKpmIndMsgFrm2 (m0 m1 : IndMsgFrm2 ℚ) : Except String Bool :=
  both (same (m0.measDataLst.length = m1.measDataLst.length)) <|
    both (eqArray (fun m0 m1 => orAssert "0!=0" (eqMeasDataLst m0 m1)) m0.measDataLst m1.measDataLst) <|
      both (orAssert "0!=0" (same (m0.measInfoCondUeLst.length = m1.measInfoCondUeLst.length))) <|
        both (eqArray (fun m0 m1 => orAssert "0!=0" (eqKpmMeasInfoCondUe m0 m1)) m0.measInfoCondUeLst
          m1.measInfoCondUeLst) (orAssert "0!=0" (eqRead m0.granPeriodMs m1.granPeriodMs))

def eqMeasReportPerUe (m0 m1 : MeasReportPerUe ℚ) : Except String Bool :=
  both (eqUeIdE2sm m0.ueMeasReportLst m1.ueMeasReportLst) (eqKpmIndMsgFrm1 m0.indMsgFormat1 m1.indMsgFormat1)

def eqKpmIndMsgFrm3 (m0 m1 : IndMsgFrm3 ℚ) : Except String Bool :=
  eqList eqMeasReportPerUe m0.measReportPerUe m1.measReportPerUe

def eqKpmIndMsg : IndMsg (IePart ℚ) → IndMsg (IePart ℚ) → Except String Bool
  | .frm1 m0, .frm1 m1 => eqKpmIndMsgFrm1 m0 m1
  | .frm2 m0, .frm2 m1 => eqKpmIndMsgFrm2 m0 m1
  | .frm3 m0, .frm3 m1 => eqKpmIndMsgFrm3 m0 m1
  | _, _ => throw "m0->type == m1->type"

/-! ### Copies -/

def cpMeasType : MeasType → MeasType
  | .name name => .name name
  | .id id => .id id

def cpLabelInfo (src : LabelInfo) : Except String LabelInfo := do
  require (src.hasNotImplemented = false) "Not implemented"
  require (src.hasIndex = false) "Not implemented"
  return .only src.noLabel (src.plmnId.map cpE2smPlmn) src.avg

def cpTestCondValue : TestCondValue ℚ → Except String (TestCondValue ℚ)
  | .integer v => return .integer v
  | .enumerated v => return .enumerated v
  | .boolean v => return .boolean v
  | .bitString _ => throw "Not implemented"
  | .octetString v => return .octetString v
  | .printableString v => return .printableString v
  | .real v => return .real v
  | .end_ => throw "Unknown condition"

def cpKpmTestInfo (src : TestInfo ℚ) : Except String (TestInfo ℚ) := do
  let value ← mapOptional cpTestCondValue src.testCondValue
  return ⟨src.testCondType, src.condType, src.testCond, value⟩

def cpLabelOrTest : LabelOrTest ℚ → Except String (LabelOrTest ℚ)
  | .labelInfo src => return .labelInfo (← cpLabelInfo src)
  | .testInfo src => return .testInfo (← cpKpmTestInfo src)

def cpKpmMatchingCondFrm3 (src : MatchingCondFrm3 ℚ) : Except String (MatchingCondFrm3 ℚ) := do
  let cond ← cpLabelOrTest src.cond
  return ⟨cond, src.logicalOr⟩

def cpKpmUeIdGranPeriodLst : UeIdGranPeriod → UeIdGranPeriod
  | .noneMatched src => .noneMatched src
  | .oneOrMoreMatched src => .oneOrMoreMatched (src.map cpUeIdE2sm)

def cpKpmMeasInfoCondUe (src : MeasInfoCondUe ℚ) : Except String (MeasInfoCondUe ℚ) := do
  let conds ← mapSized (oneTo 32768) "matching_cond_lst_len > 0 && matching_cond_lst_len < 32769"
    cpKpmMatchingCondFrm3 src.matchingCondLst
  return ⟨cpMeasType src.measType, conds, src.ueIdMatchedLst.map cpUeIdE2sm,
    src.ueIdGranPeriodLst.map cpKpmUeIdGranPeriodLst⟩

def cpMeasRecordLst : MeasRecord ℚ → MeasRecord ℚ
  | .integer v => .integer v
  | .real v => .real v
  | .noValue => .noValue

/-- As many records as the comment on the assertion allows are too many. -/
def cpMeasDataLst (src : MeasData ℚ) : Except String (MeasData ℚ) := do
  require (oneTo 65534 src.measRecordLst.length) "meas_record_len > 0 && meas_record_len <  65535"
  return ⟨src.measRecordLst.map cpMeasRecordLst, src.incompleteFlag⟩

def cpMeasInfoFormat1Lst (src : MeasInfoFrm1) : Except String MeasInfoFrm1 := do
  let labels ← mapSized (0 < ·) "label_info_lst_len > 0" cpLabelInfo src.labelInfoLst
  return ⟨cpMeasType src.measType, labels⟩

def cpKpmIndMsgFrm1 (src : IndMsgFrm1 ℚ) : Except String (IndMsgFrm1 ℚ) := do
  let data ← mapSized (oneTo 65535) "meas_data_lst_len > 0 && meas_data_lst_len < 65536" cpMeasDataLst src.measDataLst
  let infos ← mapSized (upTo 65535) "meas_info_lst_len < 65536" cpMeasInfoFormat1Lst src.measInfoLst
  return ⟨data, infos, src.granPeriodMs⟩

def cpKpmIndMsgFrm2 (src : IndMsgFrm2 ℚ) : Except String (IndMsgFrm2 ℚ) := do
  let data ← mapSized (oneTo 65535) "meas_data_lst_len > 0 && meas_data_lst_len < 65536" cpMeasDataLst src.measDataLst
  let infos ← mapSized (oneTo 65535) "meas_info_cond_ue_lst_len > 0 && meas_info_cond_ue_lst_len <  65536"
    cpKpmMeasInfoCondUe src.measInfoCondUeLst
  return ⟨data, infos, src.granPeriodMs⟩

def cpMeasReportPerUe (src : MeasReportPerUe ℚ) : Except String (MeasReportPerUe ℚ) := do
  let report ← cpKpmIndMsgFrm1 src.indMsgFormat1
  return ⟨cpUeIdE2sm src.ueMeasReportLst, report⟩

def cpKpmIndMsgFrm3 (src : IndMsgFrm3 ℚ) : Except String (IndMsgFrm3 ℚ) := do
  let reports ← src.measReportPerUe.mapM cpMeasReportPerUe
  return ⟨reports⟩

def cpKpmIndMsg : IndMsg (IePart ℚ) → Except String (IndMsg (IePart ℚ))
  | .frm1 src => return .frm1 (← cpKpmIndMsgFrm1 src)
  | .frm2 src => return .frm2 (← cpKpmIndMsgFrm2 src)
  | .frm3 src => return .frm3 (← cpKpmIndMsgFrm3 src)

end FlexRic.Sm.Kpm
