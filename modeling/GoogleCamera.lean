import GoogleCamera.Emulated.Metadata
import GoogleCamera.Emulated.Sensor
import GoogleCamera.Emulated.RequestProcessor
import GoogleCamera.Emulated.System
import GoogleCamera.Emulated.Admission
import GoogleCamera.Emulated.Mailbox
import GoogleCamera.Emulated.NotifyOrder
import GoogleCamera.Emulated.OverrideQueue
import GoogleCamera.Emulated.SensorLoop
import GoogleCamera.Emulated.StreamConfigurationMap
import GoogleCamera.Emulated.Characteristics
import GoogleCamera.Emulated.StreamCombination
import GoogleCamera.Emulated.Remosaic
import GoogleCamera.Emulated.Capture
import GoogleCamera.Hal.RealtimeProcessBlock
import GoogleCamera.Emulated.RawCapture
import GoogleCamera.Emulated.CaptureStage
import GoogleCamera.Emulated.YuvCapture
