import Rpi4Hal.Ndk
import Rpi4Hal.Bluetooth.State
import Rpi4Hal.Bluetooth.Session
import Rpi4Hal.Bluetooth.Invariant
import Rpi4Hal.Bluetooth.Lifecycle
import Rpi4Hal.Bluetooth.DeathRecipient
import Rpi4Hal.Bluetooth.Threads
import Rpi4Hal.Bluetooth.Interleaving
import Rpi4Hal.Usb.Gadget
import Rpi4Hal.Usb.Monitor
import Rpi4Hal.Bluetooth.Solo
import Rpi4Hal.Bluetooth.Safety
