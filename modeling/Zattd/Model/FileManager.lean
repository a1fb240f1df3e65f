/-
  Offline files (`zares_file_manager_impl.cc`).
-/
import Zattd.Model.ModelModule

set_option linter.unusedVariables false

namespace Zattd.ZAresFileManagerImpl

/-- `GetUserFiles`. -/
def getUserFiles (toUserId : UInt32) (files : List OfflineFile) :
    Server (Nat × List OfflineFile) := do
  if toUserId = 0 then return (0, files)
  let t := ((← issue .nowMSTime) - 7 * 24 * 3600).toUInt32
  let answ ← issue (.file (.selectUserFiles (percentD toUserId) (percentD t)))
  match answ with
  | some rows =>
    let files := files ++ rows.map fun row =>
      { fromId := getColumn row.userId
        taskId := row.taskId
        fileName := row.filePath
        fileSize := getColumn row.fsize }
    return (files.length, files)
  | none => return (0, files)

/-- The VALUES of `SaveFileRecord`, `(:1,:2,:3,:4:5,:6,:7,:8)`, by the number of placeholders
    between each two commas. -/
def saveFileTemplate : List Nat := [1, 1, 1, 2, 1, 1, 1]

/-- `SaveFileRecord`: whatever the statement answers is only logged. -/
def saveFileRecord (userId toUserId : UInt32) (taskId filePath : Bytes) (fileSize : UInt32) :
    Server Bool := do
  if userId = 0 ∨ toUserId = 0 ∨ filePath = [] then return false
  let now := (← issue .nowMSTime).toUInt32
  let values := makeQueryString saveFileTemplate
    [.uint32 userId, .uint32 toUserId, .text (cStr taskId), .text (cStr filePath), .uint32 now,
      .uint32 now, .uint32 fileSize]
  let _ ← issue (.file (.insertFile (values.bind FileValues.ofParams)))
  return true

/-- `DeleteFileRecord`; the 64 bits of the clock are printed by `%d`, which takes 32 of them. -/
def deleteFileRecord (taskId : Bytes) : Server Bool := do
  if taskId = [] then return false
  let now := (← issue .nowMSTime).toUInt32
  let _ ← issue (.file (.updateDeleted (percentD now) (cStr taskId)))
  return true

/-- `GetFileRecord`. -/
def getFileRecord (taskId : Bytes) (file : TransmitFile) : Server (Option TransmitFile) := do
  if taskId = [] then return none
  let answ ← issue (.file (.selectFile (cStr taskId)))
  match answ with
  | some (row :: _) =>
    return some { file with
      id := getColumn row.id
      fromUserId := getColumn row.userId
      toUserId := getColumn row.toUserId
      taskId := row.taskId
      filePath := row.filePath
      status := getColumn row.status
      created := getColumn row.created
      updated := getColumn row.updated
      fileSize := getColumn row.fsize }
  | some [] => return none
  | none => return none

end Zattd.ZAresFileManagerImpl
