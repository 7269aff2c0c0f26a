import TokenClient.Command.Action
import TokenClient.Command.Shell
import TokenClient.CommandLine.Basic
import TokenClient.Settings.File

/-! Carrying out what was asked for on the command line: the settings are settled, a session is
opened where a node is needed, and the outcome is printed. -/
namespace TokenClient

namespace Invocation

def settingsPath (i : Invocation) (home : String) : String :=
  i.config.getD (Settings.defaultPath home)

/-- The settings from the file, under those given as options. -/
def settings (i : Invocation) (home : String) (files : Storage) : Except Failure Settings := do
  let s ← Settings.load files (i.settingsPath home)
  return { s with
    rpcUrl := i.rpcUrl.getD s.rpcUrl
    gasLimit := i.gasLimit.getD s.gasLimit }

end Invocation

namespace Command

def carryOut (s : Settings) (session : Session) : Command → Shell Unit
  | .deploy key => do Shell.print (← (Action.deploy s session key : Client _)).lines
  | .queryTransfer contract key receiver amount => do
    Shell.print (← (Action.queryTransfer s session contract key receiver amount : Client _)).lines
  | .info contract => do Shell.print (← (Action.info session contract : Client _))
  | .balance contract account => do
    Shell.print (← (Action.balance session contract account : Client _))
  | .allowance contract owner spender => do
    Shell.print (← (Action.allowance session contract owner spender : Client _))
  | .approve contract key spender amount => do
    Shell.print (← (Action.approve s session contract key spender amount : Client _))
  | .transferFrom contract key owner recipient amount => do
    let moved ← (Action.transferFrom s session contract key owner recipient amount : Client _)
    Shell.print (Report.movedLines moved.owner moved.recipient moved.spender moved.amount moved.hash)
    let left ← (moved.contract.allowance moved.owner moved.spender : Client _)
    Shell.print (Report.leftLines ⟨left, moved.amount.decimals⟩)
  | .events contract fromBlock => do
    Shell.print (← (Action.events session contract fromBlock : Client _))
  | .transactionStatus hash => do
    Shell.print (← (Action.transactionStatus session hash : Client _))
  | .initSettings _ | .showSettings => pure ()

def online (s : Settings) (command : Command) : Shell Unit := do
  let session ← (Session.connect s.session : Client Session)
  command.carryOut s session

end Command

namespace Invocation

/-- Writes the settings in effect; a file that is there is kept unless `force` says otherwise. -/
def initSettings (i : Invocation) (home : String) (force : Bool) : Shell Unit := do
  let path := i.settingsPath home
  let files ← Shell.files
  if files.isThere path ∧ ¬ force then throw (.settingsExist path)
  let s ← i.settings home files
  Shell.store fun files => s.save files path
  Shell.print ["Wrote " ++ path]

def showSettings (i : Invocation) (home : String) : Shell Unit := do
  let s ← i.settings home (← Shell.files)
  let document ← s.document
  -- the document ends its last line itself
  Shell.print [String.ofList document.toList.dropLast]

def run (i : Invocation) (home : String) : Shell Unit := do
  match i.command with
  | .initSettings force => i.initSettings home force
  | .showSettings => i.showSettings home
  | command => do
    let s ← i.settings home (← Shell.files)
    command.online s

end Invocation

def Desk.output (desk : Desk) : String :=
  desk.printed.foldl (fun text line => text ++ line ++ "\n") ""

end TokenClient
