import RsCpuScript.Exec
import RsCpuScript.CString
import RsCpuScript.Cursor
import RsCpuScript.Scanf
import RsCpuScript.Script
import RsCpuScript.Init
import RsCpuScript.Lines
import RsCpuScript.RoundTrip
import RsCpuScript.Bounds
import RsCpuScript.Lifecycle
import RsCpuScript.Bcc
import RsCpuScript.Loader
import RsCpuScript.Launch
import RsCpuScript.Invoke
import RsCpuScript.Memory
import RsCpuScript.GlobalVar
import RsCpuScript.Bind
import RsCpuScript.Tables
import RsCpuScript.Objects
import RsCpuScript.VarStore
