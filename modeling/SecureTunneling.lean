import SecureTunneling.Basic
import SecureTunneling.Address
import SecureTunneling.Resolve
import SecureTunneling.Handler
import SecureTunneling.Interlake
import SecureTunneling.Shutdown
import SecureTunneling.Stop
import SecureTunneling.Feature
import SecureTunneling.Destination
import SecureTunneling.ServiceMaps
