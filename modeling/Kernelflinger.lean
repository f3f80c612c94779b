import Kernelflinger.Basic
import Kernelflinger.Time
import Kernelflinger.Watchdog
import Kernelflinger.Bcb
import Kernelflinger.Decision
import Kernelflinger.Arguments
import Kernelflinger.Memory
import Kernelflinger.BootImage
import Kernelflinger.OemVars
import Kernelflinger.CommandLine
import Kernelflinger.Handover
import Kernelflinger.BootParams
import Kernelflinger.Main
import Kernelflinger.Installer.Options
import Kernelflinger.Installer.Split
import Kernelflinger.Installer.SplitFlat
import Kernelflinger.Installer.SplitView
import Kernelflinger.Installer.SplitRefinement
import Kernelflinger.Installer.Commands
import Kernelflinger.Installer.Driver
import Kernelflinger.Installer.Flash
import Kernelflinger.Capsule
import Kernelflinger.ClearMemory
