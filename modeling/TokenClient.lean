import TokenClient.Main
import TokenClient.Workbench
import TokenClient.Proofs.Dialogue
import TokenClient.Proofs.SessionDialogue
import TokenClient.Proofs.TokenDialogue
import TokenClient.Proofs.CommandDialogue
import TokenClient.Proofs.RequestSequence
import TokenClient.Proofs.EventDelivery
import TokenClient.Proofs.Broadcast
import TokenClient.Proofs.SealedContent
import TokenClient.Proofs.ChainBinding
import TokenClient.Proofs.DecimalDigits
import TokenClient.Proofs.OrderedChecks
import TokenClient.Proofs.AmountGrammar
import TokenClient.Proofs.HexDigits
import TokenClient.Proofs.WordBytes
import TokenClient.Proofs.WordReplies
import TokenClient.Proofs.KeyReading
import TokenClient.Proofs.AccountReading
import TokenClient.Proofs.CursorRuns
import TokenClient.Proofs.EventReading
import TokenClient.Proofs.AmountSpelling
import TokenClient.Proofs.WholeAmounts
import TokenClient.Proofs.KeccakLanes
import TokenClient.Proofs.DeployedAddress
import TokenClient.Proofs.MethodInput
import TokenClient.Proofs.Rehearsal
import TokenClient.Proofs.SettingsDocument
import TokenClient.Proofs.FileStorage
import TokenClient.Proofs.SettingsStorage
import TokenClient.Proofs.SettingsInit
import TokenClient.Proofs.NonceOrigin
import TokenClient.Proofs.PacedRuns
import TokenClient.Proofs.Conservation
import TokenClient.Proofs.CommandSpelling
import TokenClient.Proofs.AccountNames
import TokenClient.Proofs.ArgumentChecks
import TokenClient.Proofs.SingleUse
import TokenClient.Proofs.SettingsMembers
import TokenClient.Proofs.ReceiptWait
import TokenClient.Proofs.PollTimeline
import TokenClient.Proofs.SettingsPrecedence
import TokenClient.Proofs.PrintedNames
import TokenClient.Proofs.RejectedKeys
import TokenClient.Proofs.EventLines
import TokenClient.Proofs.EventReports
import TokenClient.Proofs.ZeroRecipient
import TokenClient.Proofs.DocumentTables
import TokenClient.Proofs.SettingsMerge
import TokenClient.Proofs.SpoiltReplies
import TokenClient.Proofs.FailureStages
