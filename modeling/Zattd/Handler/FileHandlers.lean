/-
  The handlers of the requests about offline files (`zaresd/message_handler/file_*_handler.cc`).
-/
import Zattd.Handler.Context

set_option linter.unusedVariables false

namespace Zattd

/-- `FileHasOfflineReqHandler::Execute`. -/
def fileHasOfflineReqHandler : Execute FileHasOfflineReq := fun model mem sessionId request => do
  let response : Pdu FileHasOfflineRes := .new (mem.pdu .fileHasOfflineRes)
  let response := response.setReserved request.reserved
  let response := response.set fun r => { r with reqUserId := request.body.userId }
  let response := response.setAttachData request.attach
  let (_, files) ← model.fileManager.getUserFiles request.body.userId response.body.fileList
  sendSessionData sessionId .fileHasOfflineRes (response.set fun r => { r with fileList := files })

/-- `FileAddOfflineReqHandler::Execute`. -/
def fileAddOfflineReqHandler : Execute FileAddOfflineReq := fun model mem sessionId request => do
  let response : Pdu DBWriteResponse := .new (mem.pdu .dbWriteResponse)
  let response := response.setReserved request.reserved
  let response := response.set fun r => { r with
    requestId := request.body.reqUserId
    result := 0
    requestPduType := getHighInt16ByInt32 request.messageType
    fromId := request.body.fromId
    toId := request.body.toId }
  let isSucess ← model.fileManager.saveFileRecord request.body.fromId request.body.toId
    request.body.taskId request.body.fileName request.body.fileSize
  sendSessionData sessionId .dbWriteResponse
    (response.set fun r => { r with result := if isSucess then 0 else 2 })

/-- `FileDelOfflineReqHandler::Execute`: a file can be deleted for seven days. -/
def fileDelOfflineReqHandler : Execute FileDelOfflineReq := fun model mem sessionId request => do
  let response : Pdu DBWriteResponse := .new (mem.pdu .dbWriteResponse)
  let response := response.setReserved request.reserved
  let response := response.set fun r => { r with
    requestId := request.body.reqUserId
    result := 0
    requestPduType := getHighInt16ByInt32 request.messageType
    fromId := request.body.fromId
    toId := request.body.toId }
  let now := ((← issue .nowMSTime) / 1000).toUInt32
  let found ← model.fileManager.getFileRecord request.body.taskId mem.newTransmitFile
  let isDeletable := match found with
    | some file => decide (file.status = 1 ∧ file.created > now - 7 * 86400)
    | none => false
  let isSucess ← (if isDeletable then model.fileManager.deleteFileRecord request.body.taskId
    else pure false)
  sendSessionData sessionId .dbWriteResponse
    (response.set fun r => { r with result := if isSucess then 0 else 2 })

end Zattd
