import AipuCompass.Text
import AipuCompass.Utf8
import AipuCompass.Os
import AipuCompass.AipuTool
import AipuCompass.UnicodeEscape
import AipuCompass.OptForwardEngine
import AipuCompass.NdArray
import AipuCompass.Rand
import AipuCompass.RpcSession
import AipuCompass.Decimal
import AipuCompass.RandomSeed
import AipuCompass.AbsPath
import AipuCompass.TvmObjects
