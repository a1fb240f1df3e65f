/-
  The messages to and from the storage side: offline files, raw queries, logging.
-/
import Zattd.Proto.BaseData
import Zattd.Proto.BaseTeamTalkPdu
import Zattd.Proto.MessageTypes

set_option linter.unusedVariables false

namespace Zattd

/-! ### `DBQueryRequest` (`db_query_request`) -/

structure DBQueryRequest where
  seqNo : UInt32
  userId : UInt32
  queryData : Bytes
  deriving Inhabited

namespace DBQueryRequest

def seqNo_ : Slot DBQueryRequest := .uint32 (·.seqNo) fun v c => { c with seqNo := v }
def userId_ : Slot DBQueryRequest := .uint32 (·.userId) fun v c => { c with userId := v }
def queryData_ : Slot DBQueryRequest := .string (·.queryData) fun v c => { c with queryData := v }

def layout : Layout DBQueryRequest where
  byteSize := [seqNo_, userId_, queryData_]
  parse := [seqNo_, userId_, queryData_]
  serialize := [seqNo_, userId_, queryData_]

instance : PduClass DBQueryRequest := layout.pduClass messageDbQueryRequest .db

theorem implements : layout.Implements := layout.pduClass_implements _ _

theorem lawful : layout.Lawful := {}

end DBQueryRequest

/-! ### `DBQueryResponse` (`db_query_response`) -/

structure DBQueryResponse where
  seqNo : UInt32
  userId : UInt32
  resultData : Bytes
  deriving Inhabited

namespace DBQueryResponse

def seqNo_ : Slot DBQueryResponse := .uint32 (·.seqNo) fun v c => { c with seqNo := v }
def userId_ : Slot DBQueryResponse := .uint32 (·.userId) fun v c => { c with userId := v }
def resultData_ : Slot DBQueryResponse :=
  .string (·.resultData) fun v c => { c with resultData := v }

def layout : Layout DBQueryResponse where
  byteSize := [seqNo_, userId_, resultData_]
  parse := [seqNo_, userId_, resultData_]
  serialize := [seqNo_, userId_, resultData_]

instance : PduClass DBQueryResponse := layout.pduClass messageDbQueryResponse .db

theorem implements : layout.Implements := layout.pduClass_implements _ _

theorem lawful : layout.Lawful := {}

end DBQueryResponse

/-! ### `DBWriteResponse` (`db_write_response`) -/

structure DBWriteResponse where
  requestId : UInt32
  result : UInt32
  requestPduType : UInt16
  fromId : UInt32
  toId : UInt32
  deriving Inhabited

namespace DBWriteResponse

def requestId_ : Slot DBWriteResponse := .uint32 (·.requestId) fun v c => { c with requestId := v }
def result_ : Slot DBWriteResponse := .uint32 (·.result) fun v c => { c with result := v }
def requestPduType_ : Slot DBWriteResponse :=
  .uint16 (·.requestPduType) fun v c => { c with requestPduType := v }
def fromId_ : Slot DBWriteResponse := .uint32 (·.fromId) fun v c => { c with fromId := v }
def toId_ : Slot DBWriteResponse := .uint32 (·.toId) fun v c => { c with toId := v }

def layout : Layout DBWriteResponse where
  byteSize := [requestId_, result_, requestPduType_, fromId_, toId_]
  parse := [requestId_, result_, requestPduType_, fromId_, toId_]
  serialize := [requestId_, result_, requestPduType_, fromId_, toId_]

instance : PduClass DBWriteResponse := layout.pduClass messageDbWriteResponse .null

theorem implements : layout.Implements := layout.pduClass_implements _ _

theorem lawful : layout.Lawful := {}

end DBWriteResponse

/-! ### `FileAddOfflineReq` (`file_add_offline_req`) -/

structure FileAddOfflineReq where
  reqUserId : UInt32
  fromId : UInt32
  toId : UInt32
  taskId : Bytes
  fileName : Bytes
  fileSize : UInt32
  deriving Inhabited

namespace FileAddOfflineReq

def reqUserId_ : Slot FileAddOfflineReq :=
  .uint32 (·.reqUserId) fun v c => { c with reqUserId := v }
def fromId_ : Slot FileAddOfflineReq := .uint32 (·.fromId) fun v c => { c with fromId := v }
def toId_ : Slot FileAddOfflineReq := .uint32 (·.toId) fun v c => { c with toId := v }
def taskId_ : Slot FileAddOfflineReq := .string (·.taskId) fun v c => { c with taskId := v }
def fileName_ : Slot FileAddOfflineReq := .string (·.fileName) fun v c => { c with fileName := v }
def fileSize_ : Slot FileAddOfflineReq := .uint32 (·.fileSize) fun v c => { c with fileSize := v }

def layout : Layout FileAddOfflineReq where
  byteSize := [reqUserId_, fromId_, toId_, taskId_, fileName_, fileSize_]
  parse := [reqUserId_, fromId_, toId_, taskId_, fileName_, fileSize_]
  serialize := [reqUserId_, fromId_, toId_, taskId_, fileName_, fileSize_]

instance : PduClass FileAddOfflineReq := layout.pduClass messageFileAddOfflineReq .db

theorem implements : layout.Implements := layout.pduClass_implements _ _

theorem lawful : layout.Lawful := {}

end FileAddOfflineReq

/-! ### `FileDelOfflineReq` (`file_del_offline_req`) -/

structure FileDelOfflineReq where
  reqUserId : UInt32
  fromId : UInt32
  toId : UInt32
  taskId : Bytes
  deriving Inhabited

namespace FileDelOfflineReq

def reqUserId_ : Slot FileDelOfflineReq :=
  .uint32 (·.reqUserId) fun v c => { c with reqUserId := v }
def fromId_ : Slot FileDelOfflineReq := .uint32 (·.fromId) fun v c => { c with fromId := v }
def toId_ : Slot FileDelOfflineReq := .uint32 (·.toId) fun v c => { c with toId := v }
def taskId_ : Slot FileDelOfflineReq := .string (·.taskId) fun v c => { c with taskId := v }

def layout : Layout FileDelOfflineReq where
  byteSize := [reqUserId_, fromId_, toId_, taskId_]
  parse := [reqUserId_, fromId_, toId_, taskId_]
  serialize := [reqUserId_, fromId_, toId_, taskId_]

instance : PduClass FileDelOfflineReq := layout.pduClass messageFileDelOfflineReq .db

theorem implements : layout.Implements := layout.pduClass_implements _ _

theorem lawful : layout.Lawful := {}

end FileDelOfflineReq

/-! ### `FileHasOfflineReq` (`file_has_offline_req`) -/

structure FileHasOfflineReq where
  userId : UInt32
  deriving Inhabited

namespace FileHasOfflineReq

def userId_ : Slot FileHasOfflineReq := .uint32 (·.userId) fun v c => { c with userId := v }

def layout : Layout FileHasOfflineReq where
  byteSize := [userId_]
  parse := [userId_]
  serialize := [userId_]

instance : PduClass FileHasOfflineReq := layout.pduClass messageFileHasOfflineReq .db

theorem implements : layout.Implements := layout.pduClass_implements _ _

theorem lawful : layout.Lawful := {}

end FileHasOfflineReq

/-! ### `FileHasOfflineRes` (`file_has_offline_res`) -/

structure FileHasOfflineRes where
  reqUserId : UInt32
  fileList : List OfflineFile
  deriving Inhabited

namespace FileHasOfflineRes

/-- The functions of this file for a `OfflineFile`. -/
def offlineFile : Layout OfflineFile where
  byteSize :=
    [OfflineFile.fromId_, OfflineFile.taskId_, OfflineFile.fileName_, OfflineFile.fileSize_]
  parse :=
    [OfflineFile.fromId_, OfflineFile.taskId_, OfflineFile.fileName_, OfflineFile.fileSize_]
  serialize :=
    [OfflineFile.fromId_, OfflineFile.taskId_, OfflineFile.fileName_, OfflineFile.fileSize_]

theorem offlineFile_lawful : offlineFile.Lawful := {}

def reqUserId_ : Slot FileHasOfflineRes :=
  .uint32 (·.reqUserId) fun v c => { c with reqUserId := v }
def fileList_ : Slot FileHasOfflineRes :=
  .records offlineFile offlineFile_lawful .new (·.fileList)
    fun v c => { c with fileList := v }

def layout : Layout FileHasOfflineRes where
  byteSize := [reqUserId_, fileList_]
  parse := [reqUserId_, fileList_]
  serialize := [reqUserId_, fileList_]

instance : PduClass FileHasOfflineRes := layout.pduClass messageFileHasOfflineRes .db

theorem implements : layout.Implements := layout.pduClass_implements _ _

theorem lawful : layout.Lawful := {}

end FileHasOfflineRes

/-! ### `StopReceivePacket` (`stop_receive_packet`) -/

structure StopReceivePacket where
  code : UInt32
  deriving Inhabited

namespace StopReceivePacket

def code_ : Slot StopReceivePacket := .uint32 (·.code) fun v c => { c with code := v }

def layout : Layout StopReceivePacket where
  byteSize := [code_]
  parse := [code_]
  serialize := [code_]

instance : PduClass StopReceivePacket := layout.pduClass messageStopReceivePacket .null

theorem implements : layout.Implements := layout.pduClass_implements _ _

theorem lawful : layout.Lawful := {}

end StopReceivePacket

/-! ### `UserActionLog` (`user_action_log`) -/

structure UserActionLog where
  source : UInt32
  protocol : UInt32
  ip : Bytes
  userId : UInt32
  actionType : UInt32
  osType : Bytes
  userAgent : Bytes
  flashVer : Bytes
  clientVer : Bytes
  deriving Inhabited

namespace UserActionLog

def source_ : Slot UserActionLog := .uint32 (·.source) fun v c => { c with source := v }
def protocol_ : Slot UserActionLog := .uint32 (·.protocol) fun v c => { c with protocol := v }
def ip_ : Slot UserActionLog := .string (·.ip) fun v c => { c with ip := v }
def userId_ : Slot UserActionLog := .uint32 (·.userId) fun v c => { c with userId := v }
def actionType_ : Slot UserActionLog := .uint32 (·.actionType) fun v c => { c with actionType := v }
def osType_ : Slot UserActionLog := .string (·.osType) fun v c => { c with osType := v }
def userAgent_ : Slot UserActionLog := .string (·.userAgent) fun v c => { c with userAgent := v }
def flashVer_ : Slot UserActionLog := .string (·.flashVer) fun v c => { c with flashVer := v }
def clientVer_ : Slot UserActionLog := .string (·.clientVer) fun v c => { c with clientVer := v }

def layout : Layout UserActionLog where
  byteSize :=
    [source_, protocol_, ip_, userId_, actionType_, osType_, userAgent_, flashVer_, clientVer_]
  parse :=
    [source_, protocol_, ip_, userId_, actionType_, osType_, userAgent_, flashVer_, clientVer_]
  serialize :=
    [source_, protocol_, ip_, userId_, actionType_, osType_, userAgent_, flashVer_, clientVer_]

instance : PduClass UserActionLog := layout.pduClass messageUserActionLog .null

theorem implements : layout.Implements := layout.pduClass_implements _ _

theorem lawful : layout.Lawful := {}

end UserActionLog

end Zattd
