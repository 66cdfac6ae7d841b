import DeviceChannels.CommandLine.Disk
import DeviceChannels.Main
import DeviceChannels.Screen.Render
import DeviceChannels.Proofs.RefreshInterleaving
import DeviceChannels.Proofs.RefreshStability
import DeviceChannels.Proofs.ConfirmedDeletion
import DeviceChannels.Proofs.Flight
import DeviceChannels.Proofs.TaskOrder
import DeviceChannels.Proofs.GridFreshness
import DeviceChannels.Proofs.LoadingFlag
import DeviceChannels.Proofs.OverlayExclusion
import DeviceChannels.Proofs.WorkflowHistory
import DeviceChannels.Proofs.KeymapCoherence
import DeviceChannels.Proofs.FailureErasure
import DeviceChannels.Proofs.HelpListing
import DeviceChannels.Proofs.OverrideOrder
import DeviceChannels.Proofs.CatalogText
import DeviceChannels.Proofs.JsonFaults
import DeviceChannels.Proofs.OverlayExit
import DeviceChannels.Proofs.SelectionBounds
import DeviceChannels.Proofs.ByteOrder
import DeviceChannels.Proofs.DisplayOrder
import DeviceChannels.Proofs.RowDeletion
import DeviceChannels.Proofs.CleanLabel
import DeviceChannels.Proofs.EscapeSequence
import DeviceChannels.Proofs.CutWidth
import DeviceChannels.Proofs.CutOffset
import DeviceChannels.Proofs.NearestEven
import DeviceChannels.Proofs.SizeText
import DeviceChannels.Proofs.TextWidth
import DeviceChannels.Proofs.OverrideEffect
import DeviceChannels.Proofs.KeyText
import DeviceChannels.Proofs.Drawing
import DeviceChannels.Proofs.OverlayLayer
import DeviceChannels.Proofs.HelpPaging
import DeviceChannels.Proofs.HelpScroll
import DeviceChannels.Proofs.PromptLine
import DeviceChannels.Proofs.KeyReach
import DeviceChannels.Proofs.KeyHints
import DeviceChannels.Proofs.StatusReach
